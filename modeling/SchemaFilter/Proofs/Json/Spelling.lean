import SchemaFilter.Json.Printer
import SchemaFilter.Json.Typed

/-!
# Spellings

A spelling of a layout has the tokens of the layout in their order, with any blanks between them. Both
printers write spellings, so a reader that takes something from every spelling takes it from what has
been printed, be it compact or pretty.

What comes before an entry of a container is its lead: a comma in front of every entry but the first.
-/

namespace SchemaFilter.Json

/-! ## Strings -/

section Strings

variable {c : Char} {rest : List Char}

/-- What is read of a string that has one more character in front. -/
def afterChar (c : Char) (read : Option (List Char × List Char)) :
    Option (List Char × List Char) :=
  read.map fun (body, rest) => (c :: body, rest)

theorem stringBody_plain (visible : 32 ≤ c.toNat) (noQuote : c ≠ '"') (noBackslash : c ≠ '\\') :
    stringBody (c :: rest) = afterChar c (stringBody rest) := by
  have fine : ¬(c.toNat < 32 ∨ c = '\\') := by
    simp only [noBackslash, or_false]
    omega
  rw [stringBody]
  · rw [if_neg fine]
    cases stringBody rest <;> rfl
  all_goals simp_all

theorem stringBody_letter {letter : Char} (h : simpleEscape? letter = some c) :
    stringBody ('\\' :: letter :: rest) = afterChar c (stringBody rest) := by
  have other : letter ≠ 'u' := by
    rintro rfl
    cases h
  rw [stringBody]
  · rw [h]
    cases stringBody rest <;> rfl
  all_goals simp_all

/-- A unit that is no surrogate is read by itself, also if another unit follows. -/
theorem stringBody_unit {w x y z : Char} {unit : Nat} (h : hexQuad w x y z = some unit)
    (single : unit < 0xD800) (rest : List Char) :
    stringBody ('\\' :: 'u' :: w :: x :: y :: z :: rest) =
      afterChar (Char.ofNat unit) (stringBody rest) := by
  have notHigh : isHighSurrogate unit = false := by
    simp only [isHighSurrogate, Bool.and_eq_false_iff, decide_eq_false_iff_not]
    omega
  have notLow : isLowSurrogate unit = false := by
    simp only [isLowSurrogate, Bool.and_eq_false_iff, decide_eq_false_iff_not]
    omega
  -- the reader looks for a second unit before it decides about the first one
  by_cases another : ∃ e f g i more, rest = '\\' :: 'u' :: e :: f :: g :: i :: more
  · obtain ⟨e, f, g, i, more, rfl⟩ := another
    rw [stringBody, h]
    simp only [Option.bind_eq_bind, Option.bind_some, notHigh, notLow, Bool.false_eq_true, if_false]
    cases stringBody ('\\' :: 'u' :: e :: f :: g :: i :: more) <;> rfl
  · rw [stringBody, h]
    · simp only [Option.bind_eq_bind, Option.bind_some, notHigh, notLow, Bool.or_self,
        Bool.false_eq_true, if_false]
      cases stringBody rest <;> rfl
    · intro e f g i more same
      exact another ⟨e, f, g, i, more, same⟩

theorem hexQuad_of_control {n : Nat} (h : n < 32) :
    hexQuad '0' '0' (hexDigit (n / 16)) (hexDigit (n % 16)) = some n := by
  revert n
  decide

/-- What a character is written as is read as the character. -/
theorem stringBody_escape (c : Char) (rest : List Char) :
    stringBody (escape c ++ rest) = afterChar c (stringBody rest) := by
  unfold escape
  split
  iterate 7 exact stringBody_letter rfl
  next noQuote noBackslash _ _ _ _ _ =>
  split
  · next control =>
    have single : c.toNat < 0xD800 := by omega
    have read := stringBody_unit (hexQuad_of_control control) single rest
    rwa [Char.ofNat_toNat] at read
  · next visible => exact stringBody_plain (Nat.le_of_not_lt visible) noQuote noBackslash

/-- A string is read up to its closing quote. -/
theorem stringBody_escaped (cs rest : List Char) :
    stringBody (cs.flatMap escape ++ '"' :: rest) = some (cs, rest) := by
  induction cs with
  | nil => rw [List.flatMap_nil, List.nil_append, stringBody]
  | cons c cs ih =>
    rw [List.flatMap_cons, List.append_assoc, stringBody_escape, ih]
    rfl

end Strings

/-! ## Blanks -/

def IsBlank (cs : List Char) : Prop :=
  ∀ c ∈ cs, isSpace c = true

namespace IsBlank

variable {first second : List Char}

theorem nil : IsBlank [] := by
  simp [IsBlank]

theorem append (h : IsBlank first) (h' : IsBlank second) : IsBlank (first ++ second) := by
  simpa [IsBlank, or_imp, forall_and] using ⟨h, h'⟩

theorem space : IsBlank [' '] := by
  simp [IsBlank, isSpace]

theorem newline (level : Nat) : IsBlank (Layout.newline level) := by
  simp +contextual [IsBlank, Layout.newline, isSpace, or_imp]

theorem skipSpace_append (h : IsBlank first) (cs : List Char) :
    skipSpace (first ++ cs) = skipSpace cs :=
  List.dropWhile_append_of_pos h

end IsBlank

/-- What comes before an entry of a container. -/
inductive Lead : (first : Bool) → List Char → Prop where
  | first {blanks : List Char} (h : IsBlank blanks) : Lead true blanks
  | comma {before behind : List Char} (h : IsBlank before) (h' : IsBlank behind) :
    Lead false (before ++ ',' :: behind)

theorem Lead.append {first : Bool} {lead blanks : List Char} (h : Lead first lead)
    (hb : IsBlank blanks) : Lead first (lead ++ blanks) := by
  cases h with
  | first h => exact .first (h.append hb)
  | comma h h' =>
    rw [List.append_assoc, List.cons_append]
    exact .comma h (h'.append hb)

/-! ## Layouts -/

mutual

inductive Spells : Layout → List Char → Prop where
  | scalar (text : List Char) : Spells (.scalar text) text
  | array {items : List Layout} {text : List Char} (h : SpellsItems true items text) :
    Spells (.array items) ('[' :: text)
  | object {members : List (String × Layout)} {text : List Char}
    (h : SpellsMembers true members text) : Spells (.object members) ('\x7b' :: text)

/-- Whether a text is a spelling of items and of the bracket behind them. -/
inductive SpellsItems : (first : Bool) → List Layout → List Char → Prop where
  | close (first : Bool) {blanks : List Char} (h : IsBlank blanks) :
    SpellsItems first [] (blanks ++ [']'])
  | item {first : Bool} {lead text behind : List Char} {item : Layout} {items : List Layout}
    (hlead : Lead first lead) (h : Spells item text) (hrest : SpellsItems false items behind) :
    SpellsItems first (item :: items) (lead ++ (text ++ behind))

/-- Whether a text is a spelling of members and of the bracket behind them. -/
inductive SpellsMembers : (first : Bool) → List (String × Layout) → List Char → Prop where
  | close (first : Bool) {blanks : List Char} (h : IsBlank blanks) :
    SpellsMembers first [] (blanks ++ ['\x7d'])
  | member {first : Bool} {lead before between text behind : List Char} (key : String)
    {item : Layout} {members : List (String × Layout)} (hlead : Lead first lead)
    (hbefore : IsBlank before) (hbetween : IsBlank between) (h : Spells item text)
    (hrest : SpellsMembers false members behind) :
    SpellsMembers first ((key, item) :: members)
      (lead ++ (quote key ++ (before ++ ':' :: (between ++ (text ++ behind)))))

end

/-! ## Printers -/

namespace Layout

/-- A property that passes to containers from what is in them holds of all layouts. -/
@[elab_as_elim, induction_eliminator]
theorem inductionOnParts {motive : Layout → Prop} (scalar : ∀ text, motive (.scalar text))
    (array : ∀ items, (∀ item ∈ items, motive item) → motive (.array items))
    (object : ∀ members, (∀ m ∈ members, motive m.2) → motive (.object members))
    (layout : Layout) : motive layout :=
  @Layout.rec motive (fun items => ∀ item ∈ items, motive item)
    (fun members => ∀ m ∈ members, motive m.2) (fun m => motive m.2) scalar array object
    nofun (fun _ _ head tail => List.forall_mem_cons.2 ⟨head, tail⟩)
    nofun (fun _ _ head tail => List.forall_mem_cons.2 ⟨head, tail⟩) (fun _ _ h => h) layout

/-- Texts with commas between them and a gap in front of each. -/
def entries (gap : List Char) : List (List Char) → List Char
  | [] => []
  | [text] => gap ++ text
  | text :: rest => gap ++ text ++ ',' :: entries gap rest

/-- A member with its colon, behind which there may be blanks. -/
def member (between : List Char) (print : Layout → List Char) (m : String × Layout) : List Char :=
  quote m.1 ++ ':' :: (between ++ print m.2)

theorem compactItems_eq : (items : List Layout) →
    compactItems items = entries [] (items.map compact)
  | [] | [_] => rfl
  | item :: next :: rest => by
    rw [compactItems, compactItems_eq (next :: rest)]
    · rfl
    · simp

theorem compactMembers_eq : (members : List (String × Layout)) →
    compactMembers members = entries [] (members.map (member [] compact))
  | [] | [_] => rfl
  | (key, item) :: next :: rest => by
    rw [compactMembers, compactMembers_eq (next :: rest)]
    · simp [entries, member]
    · simp

theorem prettyItems_eq (level : Nat) : (items : List Layout) →
    prettyItems level items = entries (newline level) (items.map (pretty level))
  | [] | [_] => rfl
  | item :: next :: rest => by
    rw [prettyItems, prettyItems_eq level (next :: rest)]
    · rfl
    · simp

theorem prettyMembers_eq (level : Nat) : (members : List (String × Layout)) →
    prettyMembers level members =
      entries (newline level) (members.map (member [' '] (pretty level)))
  | [] => rfl
  | [(key, item)] => by simp [prettyMembers, entries, member]
  | (key, item) :: next :: rest => by
    rw [prettyMembers, prettyMembers_eq level (next :: rest)]
    · simp [entries, member]
    · simp

variable {gap between blanks lead : List Char} {print : Layout → List Char} {first : Bool}

theorem spellsItems_entries (hgap : IsBlank gap) (hblanks : IsBlank blanks)
    (hlead : Lead first lead) {item : Layout} {items : List Layout}
    (h : ∀ i ∈ item :: items, Spells i (print i)) :
    SpellsItems first (item :: items)
      (lead ++ (entries gap ((item :: items).map print) ++ (blanks ++ [']']))) := by
  induction items generalizing item first lead with
  | nil =>
    have spelled := SpellsItems.item (hlead.append hgap) (h item List.mem_cons_self)
      (.close false hblanks)
    simpa [entries] using spelled
  | cons next items ih =>
    have spelled := SpellsItems.item (hlead.append hgap) (h item List.mem_cons_self)
      (ih (.comma .nil .nil) (List.forall_mem_cons.1 h).2)
    simpa [entries] using spelled

/-- Members that are printed as spellings make a spelling. -/
theorem spellsMembers_entries (hgap : IsBlank gap) (hbetween : IsBlank between)
    (hblanks : IsBlank blanks) (hlead : Lead first lead) {m : String × Layout}
    {members : List (String × Layout)} (h : ∀ e ∈ m :: members, Spells e.2 (print e.2)) :
    SpellsMembers first (m :: members)
      (lead ++ (entries gap ((m :: members).map (member between print)) ++
        (blanks ++ ['\x7d']))) := by
  induction members generalizing m first lead with
  | nil =>
    have spelled := SpellsMembers.member m.1 (hlead.append hgap) .nil hbetween
      (h m List.mem_cons_self) (.close false hblanks)
    simpa [entries, member] using spelled
  | cons next members ih =>
    have spelled := SpellsMembers.member m.1 (hlead.append hgap) .nil hbetween
      (h m List.mem_cons_self) (ih (.comma .nil .nil) (List.forall_mem_cons.1 h).2)
    simpa [entries, member] using spelled

theorem spells_compact (layout : Layout) : Spells layout layout.compact := by
  induction layout with
  | scalar text => exact .scalar text
  | array items inside =>
    rw [compact, compactItems_eq]
    cases items with
    | nil => exact .array (.close true .nil)
    | cons item items => exact .array (spellsItems_entries .nil .nil (.first .nil) inside)
  | object members inside =>
    rw [compact, compactMembers_eq]
    cases members with
    | nil => exact .object (.close true .nil)
    | cons m members => exact .object (spellsMembers_entries .nil .nil .nil (.first .nil) inside)

theorem spells_pretty (layout : Layout) (level : Nat) : Spells layout (layout.pretty level) := by
  induction layout generalizing level with
  | scalar text => exact .scalar text
  | array items inside =>
    cases items with
    | nil => exact .array (.close true .nil)
    | cons item items =>
      have spelled := spellsItems_entries (.newline (level + 1)) (.newline level) (.first .nil)
        fun i hi => inside i hi (level + 1)
      simpa [pretty, prettyItems_eq] using Spells.array spelled
  | object members inside =>
    cases members with
    | nil => exact .object (.close true .nil)
    | cons m members =>
      have spelled := spellsMembers_entries (.newline (level + 1)) .space (.newline level)
        (.first .nil) fun i hi => inside i hi (level + 1)
      simpa [pretty, prettyMembers_eq] using Spells.object spelled

/-- Both printers write spellings. -/
theorem spells_render (isPretty : Bool) (layout : Layout) :
    Spells layout (layout.render isPretty).toList := by
  rw [render, String.toList_ofList]
  cases isPretty with
  | false => exact layout.spells_compact
  | true => exact layout.spells_pretty 0

end Layout

end SchemaFilter.Json
