import SchemaFilter.Proofs.Command.Agreement
import SchemaFilter.Proofs.Schema.SoundFields
import SchemaFilter.Proofs.Value.Canonical

/-!
# Which columns there are

Keys are collected from records one after the other, and a key that is there already is passed over.
The columns of a query are had in the same way from the names of the schema and the keys of the
records it has found: the names come first, in the order of the schema, and behind them every other
key has one column, in the order in which the keys come up. Nothing else makes a column, so that the
columns are determined by the names and the records.
-/

namespace SchemaFilter

def Value.HasKey (record : Value) (key : String) : Prop :=
  ∃ members v, record = .object members ∧ (key, v) ∈ members

namespace Report

/-- Of two keys, the one comes up before the other one when records are gone through in their order,
and the keys of each record in ascending order. -/
inductive SeenBefore : List Value → String → String → Prop where
  | here {r : Value} {rest : List Value} {a b : String} (ha : r.HasKey a)
    (hb : r.HasKey b → a < b) : SeenBefore (r :: rest) a b
  | later {r : Value} {rest : List Value} {a b : String} (ha : ¬r.HasKey a) (hb : ¬r.HasKey b)
    (h : SeenBefore rest a b) : SeenBefore (r :: rest) a b

/-- Columns start with given names and go on with the other keys of records, in the order in which these
come up. -/
structure ListsKeys (names : List String) (records : List Value) (columns : List String) :
    Prop where
  declared : names <+: columns
  complete : ∀ r ∈ records, ∀ key, r.HasKey key → key ∈ columns
  nothingElse : ∀ c ∈ columns, c ∈ names ∨ ∃ r ∈ records, r.HasKey c
  distinct : columns.Nodup
  inOrder : (columns.drop names.length).Pairwise (SeenBefore records)

variable {names columns keys : List String} {records seen : List Value} {r : Value} {a b : String}

/-! ## Adding names -/

/-- Of names without repetition those are added that are not there yet. -/
theorem addNames_eq_append (distinct : names.Nodup) (columns : List String) :
    addNames columns names = columns ++ names.filter (· ∉ columns) := by
  induction names generalizing columns with
  | nil => simp [addNames]
  | cons n names ih =>
    obtain ⟨new, distinct⟩ := List.nodup_cons.1 distinct
    have step : addNames columns (n :: names) =
        addNames (if columns.contains n then columns else columns ++ [n]) names := rfl
    by_cases old : n ∈ columns
    · rw [step, if_pos (List.contains_iff_mem.2 old), ih distinct,
        List.filter_cons_of_neg (by simpa using old)]
    · have others : names.filter (· ∉ columns ++ [n]) = names.filter (· ∉ columns) := by
        apply List.filter_congr
        intro m hm
        have : m ≠ n := fun same => new (same ▸ hm)
        simp [this]
      rw [step, if_neg (by simpa using old), ih distinct, others,
        List.filter_cons_of_pos (by simpa using old), List.append_assoc, List.singleton_append]

theorem nodup_addNames (first : columns.Nodup) (distinct : names.Nodup) :
    (addNames columns names).Nodup := by
  rw [addNames_eq_append distinct]
  refine first.append (distinct.filter _) fun c old new => ?_
  exact absurd old (by simpa using (List.mem_filter.1 new).2)

/-! ## Keys of one record -/

theorem mem_recordKeys : a ∈ recordKeys r ↔ r.HasKey a := by
  cases r <;> simp [recordKeys, Value.members?, Value.HasKey]

theorem pairwise_recordKeys (canonical : r.Canonical) : (recordKeys r).Pairwise (· < ·) := by
  cases canonical with
  | object sorted _ => exact List.pairwise_map.2 sorted
  | _ => exact List.Pairwise.nil

/-! ## The order of keys -/

/-- A key that has come up is before all those that have not. -/
theorem seenBefore_of_new (old : ∃ r ∈ records, r.HasKey a)
    (new : ∀ r ∈ records, ¬r.HasKey b) : SeenBefore records a b := by
  induction records with
  | nil => simp at old
  | cons r rest ih =>
    obtain ⟨hb, others⟩ := List.forall_mem_cons.1 new
    by_cases ha : r.HasKey a
    · exact .here ha fun h => absurd h hb
    · refine .later ha hb (ih ?_ others)
      obtain ⟨q, hq, hqa⟩ := old
      rcases List.mem_cons.1 hq with rfl | hq
      · exact absurd hqa ha
      · exact ⟨q, hq, hqa⟩

/-- Records behind do not change the order of keys. -/
theorem SeenBefore.append (h : SeenBefore records a b) (more : List Value) :
    SeenBefore (records ++ more) a b := by
  induction h with
  | here ha hb => exact .here ha hb
  | later ha hb _ ih => exact .later ha hb ih

/-- Neither do records in front that have none of the two keys. -/
theorem SeenBefore.behind (h : SeenBefore records a b) (ha : ∀ r ∈ seen, ¬r.HasKey a)
    (hb : ∀ r ∈ seen, ¬r.HasKey b) : SeenBefore (seen ++ records) a b := by
  induction seen with
  | nil => exact h
  | cons r seen ih =>
    obtain ⟨ha, frontA⟩ := List.forall_mem_cons.1 ha
    obtain ⟨hb, frontB⟩ := List.forall_mem_cons.1 hb
    exact .later ha hb (ih frontA frontB)

theorem SeenBefore.asymm (h : SeenBefore records a b) : ¬SeenBefore records b a := by
  induction h with
  | here ha hb =>
    rintro (⟨hb', ha'⟩ | ⟨-, ha', -⟩)
    · exact String.lt_asymm (hb hb') (ha' ha)
    · exact ha' ha
  | later ha hb _ ih =>
    rintro (⟨hb', -⟩ | ⟨-, -, h'⟩)
    · exact hb hb'
    · exact ih h'

/-! ## Keys of records -/

theorem listsKeys_nil : ListsKeys [] [] [] :=
  ⟨List.nil_prefix, nofun, nofun, List.nodup_nil, List.Pairwise.nil⟩

theorem ListsKeys.hasKey_of_new (h : ListsKeys [] seen columns)
    (new : a ∈ (recordKeys r).filter (· ∉ columns)) :
    r.HasKey a ∧ ∀ q ∈ seen, ¬q.HasKey a := by
  obtain ⟨own, unlisted⟩ := List.mem_filter.1 new
  refine ⟨mem_recordKeys.1 own, fun q hq key => ?_⟩
  exact absurd (h.complete q hq a key) (by simpa using unlisted)

/-- The keys of one record more are listed by adding those that are new. -/
theorem ListsKeys.add (h : ListsKeys [] seen columns) (canonical : r.Canonical) :
    ListsKeys [] (seen ++ [r]) (addNames columns (recordKeys r)) where
  declared := List.nil_prefix
  complete q hq key hkey := by
    rw [mem_addNames, mem_recordKeys]
    rcases List.mem_append.1 hq with old | new
    · exact .inl (h.complete q old key hkey)
    · exact .inr (List.mem_singleton.1 new ▸ hkey)
  nothingElse c hc := by
    refine .inr ?_
    rcases mem_addNames.1 hc with old | new
    · obtain ⟨q, hq, hqc⟩ := (h.nothingElse c old).resolve_left List.not_mem_nil
      exact ⟨q, List.mem_append_left _ hq, hqc⟩
    · exact ⟨r, by simp, mem_recordKeys.1 new⟩
  distinct := nodup_addNames h.distinct ((pairwise_recordKeys canonical).imp String.ne_of_lt)
  inOrder := by
    have ascending := pairwise_recordKeys canonical
    rw [addNames_eq_append (ascending.imp String.ne_of_lt)]
    -- what has been there comes up before what is new, and what is new is new with this record
    refine List.pairwise_append.2 ⟨h.inOrder.imp fun before => before.append [r], ?_, ?_⟩
    · refine (ascending.filter _).imp_of_mem fun {a b} ha hb less => ?_
      obtain ⟨own, unseen⟩ := h.hasKey_of_new ha
      obtain ⟨-, unseen'⟩ := h.hasKey_of_new hb
      exact (SeenBefore.here own fun _ => less).behind unseen unseen'
    · intro a ha b hb
      have old := (h.nothingElse a ha).resolve_left List.not_mem_nil
      obtain ⟨-, unseen⟩ := h.hasKey_of_new hb
      exact (seenBefore_of_new old unseen).append [r]

theorem ListsKeys.columnsAfter (h : ListsKeys [] seen columns)
    (canonical : ∀ r ∈ records, r.Canonical) :
    ListsKeys [] (seen ++ records) (columnsAfter columns records) := by
  induction records generalizing seen columns with
  | nil => rwa [List.append_nil]
  | cons r rest ih =>
    obtain ⟨first, others⟩ := List.forall_mem_cons.1 canonical
    rw [List.append_cons]
    exact ih (h.add first) others

theorem listsKeys_recordColumns (canonical : ∀ r ∈ records, r.Canonical) :
    ListsKeys [] records (recordColumns records) :=
  listsKeys_nil.columnsAfter canonical

/-! ## Columns behind given names -/

/-- Behind names without repetition the keys are listed that are no such name. -/
theorem ListsKeys.afterNames (h : ListsKeys [] records keys) (distinct : names.Nodup) :
    ListsKeys names records (addNames names keys) where
  declared := addNames_prefix names keys
  complete r hr key hkey := mem_addNames.2 (.inr (h.complete r hr key hkey))
  nothingElse c hc := (mem_addNames.1 hc).imp_right fun key =>
    (h.nothingElse c key).resolve_left List.not_mem_nil
  distinct := nodup_addNames distinct h.distinct
  inOrder := by
    rw [addNames_eq_append h.distinct, List.drop_left]
    exact List.Pairwise.filter _ h.inOrder

theorem ListsKeys.mem_iff {rest : List String} (h : ListsKeys names records (names ++ rest)) :
    a ∈ rest ↔ a ∉ names ∧ ∃ r ∈ records, r.HasKey a := by
  obtain ⟨-, -, apart⟩ := List.nodup_append.1 h.distinct
  constructor
  · intro ha
    have undeclared : a ∉ names := fun declared => apart a declared a ha rfl
    exact ⟨undeclared, (h.nothingElse a (List.mem_append_right _ ha)).resolve_left undeclared⟩
  · rintro ⟨undeclared, r, hr, key⟩
    exact (List.mem_append.1 (h.complete r hr a key)).resolve_left undeclared

/-- The columns are determined by the names and the records. -/
theorem ListsKeys.unique {others : List String} (h : ListsKeys names records columns)
    (h' : ListsKeys names records others) : columns = others := by
  obtain ⟨rest, rfl⟩ := h.declared
  obtain ⟨rest', rfl⟩ := h'.declared
  have sameKeys : rest.Perm rest' :=
    (List.perm_ext_iff_of_nodup (List.nodup_append.1 h.distinct).2.1
      (List.nodup_append.1 h'.distinct).2.1).2 fun _ => h.mem_iff.trans h'.mem_iff.symm
  have inOrder := h.inOrder
  have inOrder' := h'.inOrder
  rw [List.drop_left] at inOrder inOrder'
  -- no two keys come up before each other, so the keys can stand in one order only
  have same : rest = rest' :=
    sameKeys.eq_of_pairwise (fun _ _ _ _ before after => absurd after before.asymm) inOrder inOrder'
  rw [same]

theorem listsKeys_schemaColumns {s : Schema} (obtained : s.Obtained)
    (canonical : ∀ r ∈ records, r.Canonical) :
    ListsKeys (s.fields.map (·.name)) records (schemaColumns s records) :=
  (listsKeys_recordColumns canonical).afterNames obtained.sound.distinct

end Report

/-! ## Queries -/

namespace Command

variable {settings : Settings} {d : Disk} {r : Repository} {argument : Option String}
  {found : List Value}

/-- The records in a file are canonical. -/
theorem canonical_of_loadRecords {path : String} {records : List Value}
    (h : loadRecords d path = .ok records) : ∀ v ∈ records, v.Canonical := by
  obtain ⟨text, -, read⟩ := Outcome.bind_eq_ok_iff.1 h
  replace read : readRecords text = .ok records := Outcome.mapError_eq_ok_iff.1 read
  unfold readRecords at read
  split at read
  · next items parsed =>
    split at read
    · cases read
    · cases read
      exact fun v hv => (Json.canonical_of_parse parsed).item hv
  · cases read
  · cases read

theorem checked_of_openRepository (h : openRepository settings d = .ok r) :
    r.schema.Obtained ∧ ∀ v ∈ r.records, v.Canonical := by
  obtain ⟨_, _, -, -, schema, records⟩ := openRepository_eq_ok_iff.1 h
  exact ⟨obtained_of_loadSchema schema, canonical_of_loadRecords records⟩

theorem exists_find_of_select (h : select d r argument = .ok found) :
    ∃ filter entries, r.find filter = .ok entries ∧ found = entries.map Prod.fst := by
  cases argument with
  | none =>
    cases searched : r.find none with
    | ok entries =>
      simp only [select, searched, Outcome.ok_bind, Outcome.pure_eq_ok, Except.ok.injEq] at h
      exact ⟨none, entries, searched, h.symm⟩
    | error e => cases e <;> simp [select, searched] at h
  | some text =>
    have whole := h
    rw [select] at whole
    obtain ⟨v, hv, -⟩ := Outcome.bind_eq_ok_iff.1 whole
    rw [Opens.select_eq hv] at h
    split at h
    · next entries searched =>
      cases h
      obtain ⟨filter, -, searched⟩ := Outcome.bind_eq_ok_iff.1 searched
      exact ⟨filter, entries, searched, rfl⟩
    · cases h
    · cases h

theorem sublist_of_select (h : select d r argument = .ok found) : found.Sublist r.records := by
  obtain ⟨filter, entries, searched, rfl⟩ := exists_find_of_select h
  exact Repository.sublist_of_find searched

/-- A query that succeeds has opened a repository and selected records from it, and shows these. -/
theorem exists_select_of_query {how : Display} {countOnly : Bool} {limit : Option Nat}
    {text : String} (h : (query how settings d argument countOnly limit).2 = .ok text) :
    ∃ r found, openRepository settings d = .ok r ∧ select d r argument = .ok found ∧
      text = presentRecords how (Report.schemaColumns r.schema found) r.size countOnly limit
        found := by
  cases opened : openRepository settings d with
  | error e => simp [query, opened] at h
  | ok r =>
    cases selected : select d r argument with
    | error e => simp [query, opened, selected, Except.map] at h
    | ok found =>
      simp only [query, opened, selected, Except.map, Except.ok.injEq] at h
      exact ⟨r, found, rfl, selected, h.symm⟩

/-- The columns of a query repeat nothing and lose nothing: they are the one list that starts with
the names of the schema in their order and goes on with all other keys of the records, each of them
once and in the order in which the keys come up. A query that succeeds shows what it has found in
such columns. -/
theorem columns_of_query :
    (∀ (s : Schema) (records : List Value), s.Obtained → (∀ r ∈ records, r.Canonical) →
      ∀ columns, columns = Report.schemaColumns s records ↔
        Report.ListsKeys (s.fields.map (·.name)) records columns) ∧
    ∀ how settings d argument countOnly limit text,
      (query how settings d argument countOnly limit).2 = .ok text →
      ∃ r found columns, openRepository settings d = .ok r ∧ select d r argument = .ok found ∧
        found.Sublist r.records ∧
        Report.ListsKeys (r.schema.fields.map (·.name)) found columns ∧
        text = presentRecords how columns r.size countOnly limit found := by
  constructor
  · intro s records obtained canonical columns
    have listed := Report.listsKeys_schemaColumns obtained canonical
    constructor
    · rintro rfl
      exact listed
    · exact fun other => other.unique listed
  · intro how settings d argument countOnly limit text h
    obtain ⟨r, found, opened, selected, shown⟩ := exists_select_of_query h
    obtain ⟨obtained, canonical⟩ := checked_of_openRepository opened
    have part := sublist_of_select selected
    have listed := Report.listsKeys_schemaColumns obtained fun v hv => canonical v (part.subset hv)
    exact ⟨r, found, _, opened, selected, part, listed, shown⟩

/-- One key is in both records, one is in the schema too, and the one that sorts before all others
comes up last. -/
theorem columns_of_query_of_two_records :
    let s : Schema :=
      ⟨none, [{ name := "name", type := .string }, { name := "age", type := .number }]⟩
    let records : List Value := [.object [("age", .null), ("id", .string "u7")],
      .object [("Zip", .array []), ("id", .string "u8"), ("name", .string "Bo")]]
    let d : Disk := ⟨[
      (["s.json"], "\x7b\"fields\":[\x7b\"name\":\"name\",\"type\":\"string\"\x7d," ++
        "\x7b\"name\":\"age\",\"type\":\"number\"\x7d]\x7d"),
      (["r.json"], "[\x7b\"id\":\"u7\",\"age\":null\x7d," ++
        "\x7b\"name\":\"Bo\",\"id\":\"u8\",\"Zip\":[]\x7d]")], []⟩
    let settings : Settings := ⟨some "s.json", some "r.json", .mongo⟩
    (s.Obtained ∧ (∀ r ∈ records, r.Canonical) ∧
      Report.ListsKeys ["name", "age"] records ["name", "age", "id", "Zip"]) ∧
      ∀ how limit, ∃ text, (query how settings d none false limit).2 = .ok text ∧
        ∃ columns, Report.ListsKeys ["name", "age"] records columns ∧
          text = presentRecords how columns 2 false limit records := by
  intro s records d settings
  obtain ⟨exactly, shows⟩ := columns_of_query
  have schema : loadSchema d "s.json" = .ok s :=
    Outcome.toOption_eq_some_iff.1 (by decide +kernel)
  have loaded : loadRecords d "r.json" = .ok records :=
    Outcome.toOption_eq_some_iff.1 (by decide +kernel)
  have opened : openRepository settings d = .ok ⟨s, records⟩ :=
    openRepository_eq_ok_iff.2 ⟨"s.json", "r.json", rfl, rfl, schema, loaded⟩
  have selected : select d ⟨s, records⟩ none = .ok records :=
    Outcome.toOption_eq_some_iff.1 (by decide +kernel)
  have checked := checked_of_openRepository opened
  refine ⟨⟨checked.1, checked.2, ?_⟩, fun how limit => ?_⟩
  · exact (exactly s records checked.1 checked.2 _).1 (by decide)
  · have printed : (query how settings d none false limit).2 = .ok (presentRecords how
        (Report.schemaColumns s records) 2 false limit records) := by
      simp only [query, opened, selected, Except.map]
      rfl
    obtain ⟨r, found, columns, opened', selected', -, listed, shown⟩ :=
      shows how settings d none false limit _ printed
    cases opened.symm.trans opened'
    cases selected.symm.trans selected'
    exact ⟨_, printed, columns, listed, shown⟩

end Command

end SchemaFilter
