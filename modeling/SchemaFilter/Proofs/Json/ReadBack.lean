import SchemaFilter.Proofs.Json.Spelling
import SchemaFilter.Proofs.Outcome
import SchemaFilter.Schema.Definition

/-!
# Reading structures back

What a structure is read from is the layout it is printed as. A reader reads a layout as some result
if it takes the result from every spelling of the layout, whatever follows. This is shown for each kind
of reader from what its parts read, and for a structure from the slots that its members fill one after
the other.
-/

namespace SchemaFilter.Json

variable {α σ : Type} {read : Typed α} {layout : Layout} {a : α}

/-- Whether a text begins with a token that is neither null nor the end of an array. -/
def Opens (text : List Char) : Prop :=
  ∃ c rest, text = c :: rest ∧ isSpace c = false ∧ c ≠ ']' ∧ c ≠ 'n'

/-- Whether a reader takes a result from every spelling of a layout. -/
structure Reads (read : Typed α) (layout : Layout) (a : α) : Prop where
  opens : ∀ {text : List Char}, Spells layout text → Opens text
  takes : ∀ {text : List Char}, Spells layout text → ∀ {blanks : List Char}, IsBlank blanks →
    ∀ rest, read (blanks ++ (text ++ rest)) = .ok (a, rest)

theorem skipSpace_cons {c : Char} (h : isSpace c = false) (rest : List Char) :
    skipSpace (c :: rest) = c :: rest :=
  List.dropWhile_cons_of_neg (by simp [h])

/-- Blanks are skipped up to the first token. -/
theorem IsBlank.skipSpace_token {blanks : List Char} (h : IsBlank blanks) {c : Char}
    (hc : isSpace c = false) (rest : List Char) : skipSpace (blanks ++ c :: rest) = c :: rest := by
  rw [h.skipSpace_append, skipSpace_cons hc]

/-! ## Scalars -/

theorem quote_append (s : String) (rest : List Char) :
    quote s ++ rest = '"' :: (s.toList.flatMap escape ++ '"' :: rest) := by
  simp [quote]

theorem opens_quote (s : String) : Opens (quote s) :=
  ⟨'"', _, rfl, rfl, by decide, by decide⟩

theorem reads_text (s : String) : Reads typedText (.string s) s := by
  constructor
  · intro text spelled
    cases spelled
    exact opens_quote s
  · intro text spelled blanks blank rest
    cases spelled
    rw [quote_append, typedText, blank.skipSpace_token rfl]
    simp [stringBody_escaped, orMalformed]

theorem reads_flag (b : Bool) : Reads typedFlag (.bool b) b := by
  constructor
  · intro text spelled
    cases b <;> cases spelled <;> exact ⟨_, _, rfl, rfl, by decide, by decide⟩
  · intro text spelled blanks blank rest
    cases b <;> cases spelled <;>
      simp [typedFlag, blank.skipSpace_token, isSpace, word, orMalformed]

theorem reads_constant {ofName? : String → Option α} {name : String} (h : ofName? name = some a) :
    Reads (typedConstant ofName?) (.string name) a := by
  constructor
  · exact (reads_text name).opens
  · intro text spelled blanks blank rest
    have named := (reads_text name).takes spelled blank rest
    cases spelled
    rw [quote_append] at named ⊢
    rw [typedConstant, blank.skipSpace_token rfl]
    simp [named, h, orMismatched]

/-- What is not null is read by the reader for what is there. -/
theorem Reads.option (h : Reads read layout a) : Reads (typedOption read) layout (some a) := by
  constructor
  · exact h.opens
  · intro text spelled blanks blank rest
    obtain ⟨c, more, rfl, visible, -, notNull⟩ := h.opens spelled
    have taken := h.takes spelled .nil rest
    rw [List.nil_append, List.cons_append] at taken
    rw [typedOption, List.cons_append, blank.skipSpace_token visible]
    split
    · next same => exact absurd (List.cons.inj same).1 notNull
    · rw [taken]
      rfl

variable {β : Type}

theorem Reads.map (h : Reads read layout a) (f : α → β) :
    Reads (fun cs => do
      let (a, rest) ← read cs
      return (f a, rest)) layout (f a) := by
  constructor
  · exact h.opens
  · intro text spelled blanks blank rest
    rw [h.takes spelled blank]
    rfl

theorem Reads.checked {b : β} (h : Reads read layout a) (finish : α → Option β)
    (passed : finish a = some b) :
    Reads (fun cs => do
      let (a, rest) ← read cs
      return (← orMismatched (finish a), rest)) layout b := by
  constructor
  · exact h.opens
  · intro text spelled blanks blank rest
    simp [h.takes spelled blank, passed, orMismatched]

/-! ## Entries -/

section Entries

variable {closing c : Char} {first : Bool} {blanks lead : List Char}

/-- Behind the last entry is the bracket. -/
theorem nextEntry_close (visible : isSpace closing = false) (first : Bool) (blank : IsBlank blanks)
    (rest : List Char) : nextEntry closing first (blanks ++ closing :: rest) = .ok (.inr rest) := by
  simp [nextEntry, blank.skipSpace_token visible]

theorem nextEntry_lead (hlead : Lead first lead) (noComma : closing ≠ ',')
    (visible : isSpace c = false) (other : c ≠ closing) (rest : List Char) :
    nextEntry closing first (lead ++ c :: rest) = .ok (.inl (c :: rest)) := by
  cases hlead with
  | first blank => simp [nextEntry, blank.skipSpace_token visible, other]
  | comma before behind =>
    rw [List.append_assoc, List.cons_append]
    simp [nextEntry, before.skipSpace_token (show isSpace ',' = false from rfl),
      behind.skipSpace_token visible, other, Ne.symm noComma]

end Entries

/-! ## Arrays -/

theorem typedItems_spelling {read : Typed β} {layout : β → Layout} {items : List β}
    (h : ∀ b ∈ items, Reads read (layout b) b) {first : Bool} {text : List Char}
    (spelled : SpellsItems first (items.map layout) text) {fuel : Nat} (enough : text.length ≤ fuel)
    (rest : List Char) : typedItems read fuel first (text ++ rest) = .ok (items, rest) := by
  induction items generalizing first text fuel with
  | nil =>
    rw [List.map_nil] at spelled
    cases spelled with
    | close _ blank =>
      cases fuel with
      | zero => simp at enough
      | succ fuel =>
        rw [typedItems, List.append_assoc, List.singleton_append,
          nextEntry_close rfl first blank]
        rfl
  | cons b items ih =>
    rw [List.map_cons] at spelled
    cases spelled with
    | @item _ lead entry behind _ _ hlead hentry hbehind =>
      obtain ⟨head, others⟩ := List.forall_mem_cons.1 h
      obtain ⟨c, more, rfl, visible, other, -⟩ := head.opens hentry
      have taken := head.takes hentry .nil (behind ++ rest)
      cases fuel with
      | zero => simp at enough
      | succ fuel =>
        have shorter : behind.length ≤ fuel := by
          simp only [List.length_append, List.length_cons] at enough
          omega
        rw [List.nil_append, List.cons_append] at taken
        rw [typedItems, List.append_assoc, List.append_assoc, List.cons_append,
          nextEntry_lead hlead (by decide) visible other]
        simp [taken, ih others hbehind shorter]

/-- A list is read if its items are. -/
theorem reads_list {read : Typed β} {layout : β → Layout} {items : List β}
    (h : ∀ b ∈ items, Reads read (layout b) b) :
    Reads (typedList read) (.array (items.map layout)) items := by
  constructor
  · intro text spelled
    cases spelled
    exact ⟨'[', _, rfl, rfl, by decide, by decide⟩
  · intro text spelled blanks blank rest
    cases spelled with
    | array inside =>
      rw [typedList, List.cons_append, blank.skipSpace_token rfl]
      exact typedItems_spelling h inside (by simp; omega) rest

/-! ## Structures -/

/-- Whether members fill the slots of a structure one after the other, given which slots have been
filled before. -/
inductive Fills (slots : List (Slot σ)) :
    (seen : List (List String)) → σ → List (String × Layout) → σ → Prop where
  | nil (seen : List (List String)) (s : σ) : Fills slots seen s [] s
  | cons {seen : List (List String)} {s s' s'' : σ} {key : String} {layout : Layout}
    {members : List (String × Layout)} (slot : Slot σ)
    (found : slots.find? (·.names.contains key) = some slot) (unseen : slot.names ∉ seen)
    (h : Reads (slot.read s) layout s') (rest : Fills slots (slot.names :: seen) s' members s'') :
    Fills slots seen s ((key, layout) :: members) s''

/-- Slots can be filled as well if fewer have been filled before. -/
theorem Fills.mono {slots : List (Slot σ)} {seen seen' : List (List String)} {s s' : σ}
    {members : List (String × Layout)} (h : Fills slots seen s members s')
    (fewer : ∀ names ∈ seen', names ∈ seen) : Fills slots seen' s members s' := by
  induction h generalizing seen' with
  | nil seen s => exact .nil seen' s
  | cons slot found unseen head _ ih =>
    refine .cons slot found (fun h => unseen (fewer _ h)) head (ih ?_)
    intro names h
    rcases List.mem_cons.1 h with rfl | h
    · exact List.mem_cons_self
    · exact List.mem_cons_of_mem _ (fewer names h)

/-- A slot that is filled only if its member is there. -/
theorem Fills.optional {slots : List (Slot σ)} {seen : List (List String)} {s : σ} {key : String}
    {layout : β → Layout} {members : List (String × Layout)} {o : Option β} (fill : Option β → σ)
    (slot : Slot σ) (found : slots.find? (·.names.contains key) = some slot)
    (unseen : slot.names ∉ seen) (absent : fill none = s)
    (present : ∀ b, o = some b → Reads (slot.read s) (layout b) (fill (some b))) {s' : σ}
    (rest : Fills slots (slot.names :: seen) (fill o) members s') :
    Fills slots seen s (Layout.optional key layout o ++ members) s' := by
  cases o with
  | none =>
    rw [← absent]
    exact rest.mono fun names h => List.mem_cons_of_mem _ h
  | some b => exact .cons slot found unseen (present b rfl) rest

theorem punctuation_spelling {c : Char} (visible : isSpace c = false) {blanks : List Char}
    (blank : IsBlank blanks) (rest : List Char) :
    punctuation c (blanks ++ c :: rest) = .ok ((), rest) := by
  simp [punctuation, blank.skipSpace_token visible]

theorem typedMembers_spelling {slots : List (Slot σ)} {seen : List (List String)} {s s' : σ}
    {members : List (String × Layout)} (fills : Fills slots seen s members s') {first : Bool}
    {text : List Char} (spelled : SpellsMembers first members text) {fuel : Nat}
    (enough : text.length ≤ fuel) (rest : List Char) :
    typedMembers slots fuel first seen s (text ++ rest) = .ok (s', rest) := by
  induction fills generalizing first text fuel with
  | nil seen s =>
    cases spelled with
    | close _ blank =>
      cases fuel with
      | zero => simp at enough
      | succ fuel =>
        rw [typedMembers, List.append_assoc, List.singleton_append,
          nextEntry_close rfl first blank]
        rfl
  | @cons seen s s' s'' key layout members slot found unseen head _ ih =>
    cases spelled with
    | @member _ lead before between value behind _ _ _ hlead hbefore hbetween hvalue hbehind =>
      have taken := head.takes hvalue hbetween (behind ++ rest)
      cases fuel with
      | zero => simp [quote] at enough
      | succ fuel =>
        -- each member takes one unit of fuel and at least one character
        have shorter : behind.length ≤ fuel := by
          simp only [List.length_append, List.length_cons] at enough
          omega
        have text_eq : lead ++ (quote key ++ (before ++ ':' :: (between ++ (value ++ behind)))) ++
            rest = lead ++ '"' :: (key.toList.flatMap escape ++ '"' ::
              (before ++ ':' :: (between ++ (value ++ (behind ++ rest))))) := by
          simp [quote]
        rw [text_eq, typedMembers, nextEntry_lead hlead (by decide) rfl (by decide)]
        have colon := punctuation_spelling (show isSpace ':' = false from rfl) hbefore
        simp only [Outcome.ok_bind, stringBody_escaped, orMalformed, String.ofList_toList, found,
          List.contains_iff_mem, unseen, if_false, colon, taken]
        exact ih hbehind shorter

/-- A structure is read from members that fill its slots. -/
theorem Fills.reads {slots : List (Slot σ)} {start s : σ} {members : List (String × Layout)}
    (fills : Fills slots [] start members s) :
    Reads (typedStructure slots start) (.object members) s := by
  constructor
  · intro text spelled
    cases spelled
    exact ⟨'\x7b', _, rfl, rfl, by decide, by decide⟩
  · intro text spelled blanks blank rest
    cases spelled with
    | object inside =>
      rw [typedStructure, List.cons_append, blank.skipSpace_token rfl]
      exact typedMembers_spelling fills inside (by simp; omega) rest

/-- What a reader reads as a layout, it reads from a text that spells nothing else. -/
theorem Reads.typedWhole_eq (h : Reads read layout a) {text : String}
    (spelled : Spells layout text.toList) : typedWhole read text = .ok a := by
  have taken := h.takes spelled .nil []
  rw [List.nil_append, List.append_nil] at taken
  rw [typedWhole, taken]
  rfl

end SchemaFilter.Json
