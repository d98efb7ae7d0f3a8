import SchemaFilter.Proofs.Config.QuotedText

/-!
# Written configuration files

A configuration is read back from its file as it was written, whatever texts it holds. The file is a
table with the version, the settings that are set, and the table of the output.

A document is read line by line, and each line changes the tables read so far. `Draft.Extends` says
how a part of a document changes them whatever follows it, so that the file can be put together from
its lines.
-/

namespace SchemaFilter

namespace Toml

/-! ## Parts of documents -/

/-- Whether a part of a document takes one draft to another, whatever follows. Of the fuel it uses no
more than there are characters. -/
def Draft.Extends (d : Draft) (part : List Char) (d' : Draft) : Prop :=
  ∀ fuel rest, ∃ fuel', fuel ≤ fuel' ∧
    document (fuel + part.length) d (part ++ rest) = document fuel' d' rest

namespace Draft

variable {d d' d'' : Draft}

theorem Extends.nil (d : Draft) : d.Extends [] d :=
  fun fuel _ => ⟨fuel, Nat.le_refl fuel, rfl⟩

theorem Extends.append {first second : List Char} (h : d.Extends first d')
    (h' : d'.Extends second d'') : d.Extends (first ++ second) d'' := by
  intro fuel rest
  obtain ⟨left, enough, same⟩ := h (fuel + second.length) (second ++ rest)
  obtain ⟨last, more, same'⟩ := h' (left - second.length) rest
  refine ⟨last, by omega, ?_⟩
  have split : left = left - second.length + second.length := by omega
  rw [split, same'] at same
  rw [List.append_assoc, List.length_append, ← same]
  congr 1
  omega

/-- One line uses one unit of fuel. -/
theorem extends_of_line {line : List Char} (present : line ≠ [])
    (h : ∀ fuel rest, document (fuel + 1) d (line ++ rest) = document fuel d' rest) :
    d.Extends line d' := by
  intro fuel rest
  obtain ⟨c, cs, rfl⟩ := List.exists_cons_of_ne_nil present
  refine ⟨fuel + cs.length, Nat.le_add_right _ _, ?_⟩
  exact h (fuel + cs.length) rest

theorem Extends.document_eq {cs : List Char} (h : d.Extends cs d') :
    document (cs.length + 1) d cs = some d' := by
  obtain ⟨fuel, enough, same⟩ := h 1 []
  obtain ⟨fuel, rfl⟩ := Nat.exists_eq_succ_of_ne_zero (Nat.ne_of_gt enough)
  rw [List.append_nil, Nat.add_comm] at same
  rw [same]
  rfl

end Draft

/-! ## Keys and values -/

/-- Whether a name may stand as a key without quotes. -/
def IsKey (name : List Char) : Prop :=
  name ≠ [] ∧ ∀ c ∈ name, isKeyChar c = true

instance (name : List Char) : Decidable (IsKey name) :=
  decidable_of_iff ((!name.isEmpty && name.all isKeyChar) = true) (by simp [IsKey])

/-- Whether a text is read as a value up to the end of its line. -/
structure Reads (text : List Char) (v : Toml) : Prop where
  starts : ∀ c, text.head? = some c → isBlank c = false
  value_eq (fuel : Nat) (rest : List Char) :
    value (fuel + 1) 0 (text ++ '\n' :: rest) = some (v, '\n' :: rest)

theorem isKeyChar_ne {c special : Char} (h : isKeyChar c = true)
    (other : isKeyChar special = false) : c ≠ special := by
  rintro rfl
  rw [h] at other
  cases other

theorem isBlank_of_isKeyChar {c : Char} (h : isKeyChar c = true) : isBlank c = false := by
  simp [isBlank, isKeyChar_ne h (show isKeyChar ' ' = false by decide),
    isKeyChar_ne h (show isKeyChar '\t' = false by decide)]

theorem skipBlanks_of_head? {cs : List Char} (h : ∀ c, cs.head? = some c → isBlank c = false) :
    skipBlanks cs = cs := by
  cases cs with
  | nil => rfl
  | cons c cs => simp [skipBlanks, h c rfl]

/-- A key in one part, before something that does not belong to it. -/
theorem dottedKey_of_isKey {key : String} (name : IsKey key.toList) {cs rest : List Char} {c : Char}
    (stops : ∀ d, cs.head? = some d → isKeyChar d = false) (next : skipBlanks cs = c :: rest)
    (noPoint : c ≠ '.') : dottedKey (key.toList ++ cs) = some (([], key), c :: rest) := by
  obtain ⟨present, all⟩ := name
  have taken : (key.toList ++ cs).takeWhile isKeyChar = key.toList := by
    rw [List.takeWhile_append_of_pos all]
    cases cs with
    | nil => simp
    | cons d cs => simp [stops d rfl]
  obtain ⟨first, others, whole⟩ := List.exists_cons_of_ne_nil present
  have isKeyFirst : isKeyChar first = true := all first (by simp [whole])
  have unblank : skipBlanks (key.toList ++ cs) = key.toList ++ cs := by
    rw [whole, List.cons_append]
    exact Config.skipBlanks_of_not_blank (isBlank_of_isKeyChar isKeyFirst) _
  have simple : simpleKey (key.toList ++ cs) = some (key, cs) := by
    unfold simpleKey
    split
    · next same =>
      rw [whole] at same
      cases same
      cases isKeyFirst
    · next same =>
      rw [whole] at same
      cases same
      cases isKeyFirst
    · simp [taken, present]
  have further : furtherKeys (cs.length + 1) cs = some ([], c :: rest) := by
    rw [furtherKeys, next]
    split
    · next same => exact absurd (List.cons.inj same).1 noPoint
    · rfl
  rw [dottedKey, unblank, simple]
  simp only [Option.bind_eq_bind, Option.bind_some, further]
  rfl

/-! ## One digit -/

theorem digitGroup_lineBreak (fuel : Nat) (rest : List Char) :
    digitGroup Char.isDigit (fuel + 1) ('\n' :: rest) = none := by
  have noDigit : Char.isDigit '\n' = false := by decide
  unfold digitGroup
  split
  · next same =>
    obtain ⟨rfl, -⟩ := List.cons.inj same
    simp [noDigit]
  · next same =>
    obtain ⟨rfl, -⟩ := List.cons.inj same
    simp [noDigit]
  · rfl

theorem number_one (rest : List Char) :
    number ('1' :: '\n' :: rest) = some (.integer 1, '\n' :: rest) := by
  have digits : digitsOf Char.isDigit ('1' :: '\n' :: rest) = some (['1'], '\n' :: rest) := by
    rw [digitsOf, List.length_cons, digitGroup]
    · rw [List.length_cons, digitGroup_lineBreak]
      rfl
    · simp
  have numbers : decimal ('1' :: '\n' :: rest) = some (['1'], '\n' :: rest) := by
    simp [decimal, digits]
  have whole : float? false ['1'] ('\n' :: rest) = none := by
    simp [float?, fractionPart, exponentPart]
  have unsigned : sign ('1' :: '\n' :: rest) = (false, '1' :: '\n' :: rest) := rfl
  have ordinary : special? ('1' :: '\n' :: rest) = none := rfl
  have one : Json.natOfDigits ['1'] = 1 := rfl
  have fits : fits64 1 = true := by decide
  rw [number]
  · simp [unsigned, ordinary, numbers, whole, one, fits]
  all_goals simp
/-! ## Lines -/

theorem Draft.extends_pair {d d' : Draft} {key : String} {text : List Char} {v : Toml}
    (name : IsKey key.toList) (reads : Reads text v) (added : d.add [] key v = some d') :
    d.Extends (key.toList ++ [' ', '=', ' '] ++ text ++ ['\n']) d' := by
  obtain ⟨first, others, whole⟩ := List.exists_cons_of_ne_nil name.1
  have isKeyFirst : isKeyChar first = true := name.2 first (by simp [whole])
  refine extends_of_line (by simp) fun fuel rest => ?_
  have shape : key.toList ++ [' ', '=', ' '] ++ text ++ ['\n'] ++ rest =
      key.toList ++ ' ' :: '=' :: ' ' :: (text ++ '\n' :: rest) := by simp
  have keyRead : dottedKey (key.toList ++ ' ' :: '=' :: ' ' :: (text ++ '\n' :: rest)) =
      some (([], key), '=' :: ' ' :: (text ++ '\n' :: rest)) := by
    refine dottedKey_of_isKey name ?_ ?_ (by decide)
    · rintro d ⟨⟩
      decide
    · rfl
  have valueStarts : skipBlanks (' ' :: (text ++ '\n' :: rest)) = text ++ '\n' :: rest := by
    have unblank : skipBlanks (text ++ '\n' :: rest) = text ++ '\n' :: rest := by
      apply skipBlanks_of_head?
      intro c hc
      cases text with
      | nil =>
        cases hc
        decide
      | cons d text => exact reads.starts c hc
    simpa [skipBlanks, isBlank] using unblank
  have lineEnds : lineEnd? ('\n' :: rest) = some rest := rfl
  have lineStarts : skipBlanks (key.toList ++ ' ' :: '=' :: ' ' :: (text ++ '\n' :: rest)) =
      key.toList ++ ' ' :: '=' :: ' ' :: (text ++ '\n' :: rest) := by
    rw [whole, List.cons_append]
    exact Config.skipBlanks_of_not_blank (isBlank_of_isKeyChar isKeyFirst) _
  have special {c : Char} (h : isKeyChar c = false) (cs more : List Char) :
      key.toList ++ cs ≠ c :: more := by
    rw [whole, List.cons_append]
    intro same
    exact isKeyChar_ne isKeyFirst h (List.cons.inj same).1
  -- a key begins neither an empty line nor a comment nor a header, so the line is a pair
  rw [shape, document, lineStarts]
  split
  · next same => simp at same
  · next same => exact absurd same (special (by decide) _ _)
  · next same => exact absurd same (special (by decide) _ _)
  · next same => exact absurd same (special (by decide) _ _)
  · next same => exact absurd same (special (by decide) _ _)
  · have equals : skipBlanks ('=' :: ' ' :: (text ++ '\n' :: rest)) =
        '=' :: ' ' :: (text ++ '\n' :: rest) := rfl
    simp only [keyRead, Option.bind_eq_bind, Option.bind_some, equals, valueStarts, reads.value_eq,
      added, lineEnds]

theorem Draft.extends_lineBreak (d : Draft) : d.Extends ['\n'] d :=
  extends_of_line (by simp) fun _ _ => rfl

theorem Draft.extends_header {d d' : Draft} {key : String} (name : IsKey key.toList)
    (opened : d.openHeader false [] key = some d') :
    d.Extends ('[' :: key.toList ++ [']', '\n']) d' := by
  refine extends_of_line (by simp) fun fuel rest => ?_
  have shape : '[' :: key.toList ++ [']', '\n'] ++ rest = '[' :: (key.toList ++ ']' :: '\n' :: rest) := by
    simp
  have keyRead : dottedKey (key.toList ++ ']' :: '\n' :: rest) =
      some (([], key), ']' :: '\n' :: rest) := by
    refine dottedKey_of_isKey name ?_ rfl (by decide)
    rintro d ⟨⟩
    decide
  obtain ⟨first, others, whole⟩ := List.exists_cons_of_ne_nil name.1
  have isKeyFirst : isKeyChar first = true := name.2 first (by simp [whole])
  have header : headerLine (key.toList ++ ']' :: '\n' :: rest) =
      some ((false, [], key), rest) := by
    have closing : skipBlanks (']' :: '\n' :: rest) = ']' :: '\n' :: rest := rfl
    unfold headerLine
    split
    · next same =>
      split at same
      · next bracket =>
        rw [whole] at bracket
        cases bracket
        cases isKeyFirst
      · cases same
        simp only [keyRead, Option.bind_eq_bind, Option.bind_some, closing]
        rfl
  have bracket : skipBlanks ('[' :: (key.toList ++ ']' :: '\n' :: rest)) =
      '[' :: (key.toList ++ ']' :: '\n' :: rest) := rfl
  rw [shape, document, bracket]
  simp only [header, Option.bind_eq_bind, Option.bind_some, opened]

/-! ## Tables -/

theorem Draft.add_root {root : Entries} {key : String} (new : List.lookup key root = none)
    (v : Toml) : Draft.add ⟨root, []⟩ [] key v = some ⟨root ++ [(key, v)], []⟩ := by
  simp [Draft.add, changeRoot, changeAt, addPair, setKey, new]

theorem replace_last {before : Entries} {key : String} (only : List.lookup key before = none)
    (v w : Toml) : replace key w (before ++ [(key, v)]) = before ++ [(key, w)] := by
  have kept : replace key w before = before.map id := by
    apply List.map_congr_left
    intro entry hentry
    have other : entry.1 ≠ key := by
      rintro rfl
      simpa using List.lookup_eq_none_iff.1 only entry hentry
    exact if_neg other
  have last : replace key w [(key, v)] = [(key, w)] := by simp [replace]
  rw [List.map_id] at kept
  calc replace key w (before ++ [(key, v)])
      = replace key w before ++ replace key w [(key, v)] := List.map_append
    _ = before ++ [(key, w)] := by rw [kept, last]

/-- A pair is added to the table of the header that holds. -/
theorem Draft.add_headed {before inner : Entries} {header key : String}
    (only : List.lookup header before = none) (new : List.lookup key inner = none) (v : Toml) :
    Draft.add ⟨before ++ [(header, .table .headed inner)], [header]⟩ [] key v =
      some ⟨before ++ [(header, .table .headed (inner ++ [(key, v)]))], [header]⟩ := by
  have found : List.lookup header (before ++ [(header, Toml.table .headed inner)]) =
      some (.table .headed inner) := by
    simp [List.lookup_append, only]
  simp [Draft.add, changeRoot, changeAt, addPair, setKey, new, found, replace_last only]

theorem Draft.openHeader_new {root : Entries} {key : String} (new : List.lookup key root = none) :
    Draft.openHeader ⟨root, []⟩ false [] key =
      some ⟨root ++ [(key, .table .headed [])], [key]⟩ := by
  simp [Draft.openHeader, changeRoot, changeAt, openTable, new]

end Toml

namespace Config

open Toml

/-! ## The values of settings -/

theorem reads_quoteText (s : String) : Reads (quoteText s) (.string s) := by
  obtain ⟨quote, body, shape, isQuote⟩ : ∃ quote body, quoteText s = quote :: body ∧
      (quote = '"' ∨ quote = '\'') := by
    unfold quoteText
    simp only
    split
    · split
      · exact ⟨_, _, rfl, .inr rfl⟩
      · exact ⟨_, _, rfl, .inr rfl⟩
    · split
      · exact ⟨_, _, rfl, .inl rfl⟩
      · exact ⟨_, _, rfl, .inl rfl⟩
  constructor
  · rw [shape]
    rintro c ⟨⟩
    rcases isQuote with rfl | rfl <;> decide
  · intro fuel rest
    have read := anyString_quoteText s rest
    rw [shape, List.cons_append] at read ⊢
    rcases isQuote with rfl | rfl
    · simp only [value, read]
      rfl
    · simp only [value, read]
      rfl

theorem reads_flagText (b : Bool) : Reads (flagText b) (.boolean b) := by
  cases b with
  | true =>
    constructor
    · rintro c ⟨⟩
      decide
    · intro fuel rest
      simp [flagText, value]
  | false =>
    constructor
    · rintro c ⟨⟩
      decide
    · intro fuel rest
      simp [flagText, value]

theorem reads_version : Reads (toString version).toList (.integer 1) := by
  have digit : (toString version).toList = ['1'] := by decide
  rw [digit]
  constructor
  · rintro c ⟨⟩
    decide
  · intro fuel rest
    have noDate : dateTimeToken ('1' :: '\n' :: rest) = none := by
      simp [dateTimeToken, day, time, Calendar.number, Calendar.strictTime, Calendar.pair]
    rw [List.singleton_append, value]
    · rw [noDate, number_one]
      rfl
    all_goals simp

/-! ## The file of a configuration -/

def settingEntry {α : Type} (key : String) (toml : α → Toml) (setting : Option α) : Entries :=
  (setting.map fun a => (key, toml a)).toList

@[simp] theorem lookup_settingEntry {α : Type} (key name : String) (toml : α → Toml)
    (setting : Option α) : List.lookup name (settingEntry key toml setting) =
      if name == key then setting.map toml else none := by
  cases setting with
  | none => simp [settingEntry]
  | some a =>
    cases same : name == key <;> simp [settingEntry, List.lookup_cons, same]

def outputEntries (c : Config) : Entries :=
  settingEntry "color" .boolean c.color ++ settingEntry "pretty" .boolean c.pretty

/-- The entries before the table of the output. -/
def topEntries (c : Config) : Entries :=
  [("version", .integer 1)] ++ settingEntry "schema" .string c.schema ++
    settingEntry "records" .string c.records ++ settingEntry "target" .string c.target

def entries (c : Config) : Entries :=
  c.topEntries ++ [("output", .table .headed c.outputEntries)]

section Lines

variable {α : Type} {text : α → List Char} {toml : α → Toml} {d : Draft} {part : List Char}

theorem extends_setting (key : String) {root : Entries} (h : d.Extends part ⟨root, []⟩)
    (name : IsKey key.toList) (reads : ∀ a, Reads (text a) (toml a))
    (new : List.lookup key root = none) (setting : Option α) :
    d.Extends (part ++ settingLine key text setting)
      ⟨root ++ settingEntry key toml setting, []⟩ := by
  apply h.append
  cases setting with
  | none =>
    rw [show settingEntry key toml none = [] from rfl, List.append_nil]
    exact .nil _
  | some a => exact Draft.extends_pair name (reads a) (Draft.add_root new (toml a))

/-- The line of a setting under a header adds its entry to the table of the header. -/
theorem extends_headedSetting (key : String) {before inner : Entries} {header : String}
    (h : d.Extends part ⟨before ++ [(header, .table .headed inner)], [header]⟩)
    (name : IsKey key.toList) (reads : ∀ a, Reads (text a) (toml a))
    (only : List.lookup header before = none) (new : List.lookup key inner = none)
    (setting : Option α) :
    d.Extends (part ++ settingLine key text setting)
      ⟨before ++ [(header, .table .headed (inner ++ settingEntry key toml setting))],
        [header]⟩ := by
  apply h.append
  cases setting with
  | none =>
    rw [show settingEntry key toml none = [] from rfl, List.append_nil]
    exact .nil _
  | some a => exact Draft.extends_pair name (reads a) (Draft.add_headed only new (toml a))

end Lines

/-- The text of a file with its header taken apart. -/
theorem toList_write (c : Config) : c.write.toList =
    settingLine "version" (fun n => (toString n).toList) (some version) ++
      settingLine "schema" quoteText c.schema ++ settingLine "records" quoteText c.records ++
      settingLine "target" quoteText c.target ++ ['\n'] ++ ('[' :: "output".toList ++ [']', '\n']) ++
      settingLine "color" flagText c.color ++ settingLine "pretty" flagText c.pretty := by
  have header : "\n[output]\n".toList = ['\n'] ++ ('[' :: "output".toList ++ [']', '\n']) := by
    decide
  rw [write, header, String.toList_ofList, ← List.append_assoc]

/-- The file adds the entries of the configuration, line by line. -/
theorem extends_write (c : Config) :
    Draft.Extends ⟨[], []⟩ c.write.toList ⟨c.entries, ["output"]⟩ := by
  have only : List.lookup "output" c.topEntries = none := by
    simp [topEntries, List.lookup_append, List.lookup_cons]
  have version : Draft.Extends ⟨[], []⟩
      (settingLine "version" (fun n => (toString n).toList) (some version))
      ⟨[("version", .integer 1)], []⟩ :=
    Draft.extends_pair (by decide) reads_version (Draft.add_root rfl _)
  have schema := extends_setting "schema" version (by decide) reads_quoteText
    (by simp [List.lookup_cons]) c.schema
  have records := extends_setting "records" schema (by decide) reads_quoteText
    (by simp [List.lookup_cons]) c.records
  have target := extends_setting "target" records (by decide) reads_quoteText
    (by simp [List.lookup_append, List.lookup_cons]) c.target
  have header := (target.append (Draft.extends_lineBreak _)).append
    (Draft.extends_header (by decide) (Draft.openHeader_new only))
  have color := extends_headedSetting "color" header (by decide) reads_flagText only rfl c.color
  have pretty := extends_headedSetting "pretty" color (by decide) reads_flagText only
    (by simp) c.pretty
  rw [toList_write]
  exact pretty

/-- The file is read as a table with the entries of the configuration. -/
theorem parse_write (c : Config) : Toml.parse c.write = some (.table .headed c.entries) := by
  have marked : ∃ rest, c.write.toList = 'v' :: rest := ⟨_, by rw [toList_write]; rfl⟩
  obtain ⟨rest, hrest⟩ := marked
  have unmarked : Toml.parse c.write = (do
      let d ← document (c.write.toList.length + 1) ⟨[], []⟩ c.write.toList
      return .table .headed d.root) := by
    rw [parse, hrest]
    rfl
  rw [unmarked, c.extends_write.document_eq]
  rfl

theorem textSetting?_of_lookup {entries : Entries} {key : String} {setting : Option String}
    (h : List.lookup key entries = setting.map .string) :
    textSetting? entries key = some setting := by
  rw [textSetting?, h]
  cases setting with
  | none => rfl
  | some s => rfl

theorem flagSetting_of_lookup {entries : Entries} {key : String} {setting : Option Bool}
    (h : List.lookup key entries = setting.map .boolean) :
    Toml.view.optional Toml.view.flag? (List.lookup key entries) = some setting := by
  rw [h]
  cases setting with
  | none => rfl
  | some b => rfl

/-- A configuration that is written is read back. -/
theorem read?_write (c : Config) : read? c.write = some c := by
  have version : readsVersion c.entries = true := by
    simp [readsVersion, entries, topEntries]
  have schema : textSetting? c.entries "schema" = some c.schema :=
    textSetting?_of_lookup (by simp [entries, topEntries, List.lookup_append, List.lookup_cons])
  have records : textSetting? c.entries "records" = some c.records :=
    textSetting?_of_lookup (by simp [entries, topEntries, List.lookup_append, List.lookup_cons])
  have target : textSetting? c.entries "target" = some c.target :=
    textSetting?_of_lookup (by simp [entries, topEntries, List.lookup_append, List.lookup_cons])
  have table : List.lookup "output" c.entries = some (.table .headed c.outputEntries) := by
    simp [entries, topEntries, List.lookup_append, List.lookup_cons]
  have color : Toml.view.optional Toml.view.flag? (List.lookup "color" c.outputEntries) =
      some c.color :=
    flagSetting_of_lookup (by simp [outputEntries, List.lookup_append])
  have pretty : Toml.view.optional Toml.view.flag? (List.lookup "pretty" c.outputEntries) =
      some c.pretty :=
    flagSetting_of_lookup (by simp [outputEntries, List.lookup_append])
  have noList : Toml.view.items? (.table .headed c.outputEntries) = none := rfl
  have members (es : Entries) : Toml.view.members? (.table .headed es) = some es := rfl
  simp only [read?, parse_write, members, version, table, outputSettings?, noList, color, pretty,
    schema, records, target, Option.bind_eq_bind, Option.bind_some]
  rfl

end Config

end SchemaFilter
