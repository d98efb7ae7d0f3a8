import SchemaFilter.Command.Run
import SchemaFilter.Proofs.Repository
import SchemaFilter.Proofs.Schema.Checked

/-!
# Agreement of commands

Three commands are given a filter: one checks it, one compiles it and one selects records by it. They
come to their check on different ways, the last one through a repository that validates what it has
read once more, but they accept and reject the same filters with the same diagnostics. What a filter
compiles to selects the same records as the filter.

Commands are compared on one disk and with one set of options, under which there are a configuration,
a schema and records.
-/

namespace SchemaFilter

/-! ## Actions and what they print -/

/-- Whether an action works on the data files. -/
def Action.UsesData : Action → Prop
  | .validate _ | .compile _ _ | .query _ _ _ | .eval _ _ | .schema => True
  | .greet | .config _ | .completions _ => False

/-- Whether an action is to check a filter argument: to say whether it is valid, to compile it or to
select records by it. -/
inductive Action.Checks (argument : String) : Action → Prop where
  | validate : Checks argument (.validate argument)
  | compile (target : Option Target) : Checks argument (.compile argument target)
  | query (countOnly : Bool) (limit : Option Nat) :
    Checks argument (.query (some argument) countOnly limit)

/-- The output of a command. A failure is not part of it. -/
def Outcome.printed (o : Outcome) : String :=
  match o.result with
  | .ok text => text
  | .error _ => ""

namespace Command

theorem obtained_of_loadSchema {d : Disk} {path : String} {s : Schema}
    (h : loadSchema d path = .ok s) : s.Obtained := by
  unfold loadSchema at h
  split at h
  · cases h
  · next format hformat =>
    obtain ⟨text, -, read⟩ := Outcome.bind_eq_ok_iff.1 h
    exact .read (Outcome.mapError_eq_ok_iff.1 read)

/-! ## Runs on data -/

theorem openRepository_eq_ok_iff {settings : Settings} {d : Disk} {r : Repository} :
    openRepository settings d = .ok r ↔ ∃ schemaPath recordsPath,
      settings.schemaPath = .ok schemaPath ∧ settings.recordsPath = .ok recordsPath ∧
        loadSchema d schemaPath = .ok r.schema ∧ loadRecords d recordsPath = .ok r.records := by
  obtain ⟨schema, records⟩ := r
  simp only [openRepository, Outcome.bind_eq_ok_iff, Outcome.mapError_eq_ok_iff,
    Outcome.pure_eq_ok, Except.ok.injEq, Repository.mk.injEq]
  constructor
  · rintro ⟨schemaPath, hs, recordsPath, hr, _, hschema, _, hrecords, rfl, rfl⟩
    exact ⟨schemaPath, recordsPath, hs, hr, hschema, hrecords⟩
  · rintro ⟨schemaPath, recordsPath, hs, hr, hschema, hrecords⟩
    exact ⟨schemaPath, hs, recordsPath, hr, schema, hschema, records, hrecords, rfl, rfl⟩

/-- Whether an invocation finds the configuration, the settings and the repository of the data files
on a disk. What is to be done with them makes no difference. -/
structure Opens (e : Environment) (i : Invocation) (d : Disk) (c : Config) (settings : Settings)
    (r : Repository) : Prop where
  loads : loadConfig e d = .ok c
  chooses : i.settings c = .ok settings
  opens : openRepository settings d = .ok r

namespace Opens

variable {e : Environment} {i : Invocation} {d : Disk} {c : Config} {settings : Settings}
  {r : Repository}

theorem isReserved_eq_false (h : Opens e i d c settings r) :
    ∀ f ∈ r.schema.fields, isReserved f.name = false := by
  obtain ⟨schemaPath, recordsPath, -, -, hschema, -⟩ := openRepository_eq_ok_iff.1 h.opens
  exact Schema.isReserved_eq_false_of_define (obtained_of_loadSchema hschema).define_eq

/-- An action on data is carried out under the settings, and leaves the disk as it is. -/
theorem run_eq (h : Opens e i d c settings r) (a : Action) (ha : a.UsesData) :
    run e { i with action := a } d =
      ⟨(runData (i.display c) settings d a).1, (runData (i.display c) settings d a).2, d⟩ := by
  obtain ⟨path, hpath, -⟩ := Outcome.bind_eq_ok_iff.1 h.loads
  have chosen : Invocation.settings { i with action := a } c = .ok settings := h.chooses
  have shown : Invocation.display { i with action := a } c = i.display c := rfl
  rw [run, hpath, h.loads]
  cases a with
  | greet | config _ | completions _ => exact ha.elim
  | validate _ | compile _ _ | query _ _ _ | eval _ _ | schema =>
    simp only [runWith, chosen, shown]

theorem result_validate (h : Opens e i d c settings r) (argument : String) :
    (run e { i with action := .validate argument } d).result =
      (checkFilter d r.schema argument).map fun f =>
        present (i.display c) (Report.validLayout ((f.map Filter.conditionCount).getD 0))
          (Report.validText (i.display c).colored ((f.map Filter.conditionCount).getD 0)) := by
  obtain ⟨schemaPath, recordsPath, hs, -, hschema, -⟩ := openRepository_eq_ok_iff.1 h.opens
  rw [h.run_eq (.validate argument) trivial]
  simp only [runData, validate, hs, hschema, Outcome.mapError_ok, Outcome.ok_bind]
  cases checkFilter d r.schema argument with
  | error e => rfl
  | ok f => rfl

theorem result_compile (h : Opens e i d c settings r) (argument : String)
    (target : Option Target) :
    (run e { i with action := .compile argument target } d).result =
      (checkFilter d r.schema argument >>= fun f =>
        (((target.getD settings.target).compile f).mapError .query).map fun compiled =>
          present (i.display c) (Report.compiledLayout compiled)
            (Report.compiledText (i.display c).colored compiled)) := by
  obtain ⟨schemaPath, recordsPath, hs, -, hschema, -⟩ := openRepository_eq_ok_iff.1 h.opens
  rw [h.run_eq (.compile argument target) trivial]
  simp only [runData, compile, hs, hschema, Outcome.mapError_ok, Outcome.ok_bind]
  cases checkFilter d r.schema argument with
  | error e => rfl
  | ok f =>
    simp only [Outcome.ok_bind]
    cases (target.getD settings.target).compile f with
    | error e => rfl
    | ok compiled => rfl

theorem result_query (h : Opens e i d c settings r) (argument : Option String)
    (countOnly : Bool) (limit : Option Nat) :
    (run e { i with action := .query argument countOnly limit } d).result =
      (select d r argument).map fun found =>
        presentRecords (i.display c) (Report.schemaColumns r.schema found) r.size countOnly limit
          found := by
  rw [h.run_eq (.query argument countOnly limit) trivial]
  simp only [runData, query, h.opens]

theorem result_eval (h : Opens e i d c settings r) {text : String} {document : Document}
    (htext : argumentValue d text = .ok document.toValue) (countOnly : Bool) :
    (run e { i with action := .eval text countOnly } d).result =
      (((Evaluator.of document).select r.records).mapError .query).map fun found =>
        presentRecords (i.display c) (Report.recordColumns (found.map (·.1))) r.size countOnly none
          (found.map (·.1)) := by
  obtain ⟨schemaPath, recordsPath, -, hr, -, hrecords⟩ := openRepository_eq_ok_iff.1 h.opens
  have same : Document.ofValue document.toValue = .ok document := rfl
  rw [h.run_eq (.eval text countOnly) trivial]
  simp only [runData, eval, hr, hrecords, htext, same, Outcome.mapError_ok, Outcome.ok_bind]
  cases (Evaluator.of document).select r.records with
  | error e => rfl
  | ok found => rfl

/-! ## Accepting and rejecting -/

variable {argument : String} {v : Value}

/-- Two of the commands validate the value of their argument and tell the faults with hints. -/
theorem checkFilter_eq (hv : argumentValue d argument = .ok v) (s : Schema) :
    checkFilter d s argument =
      (s.validateValue v).mapError fun faults => .invalidFilter (faults.map s.diagnose) := by
  rw [checkFilter, hv, Outcome.ok_bind]

/-- The third one has its repository do it. -/
theorem select_eq (hv : argumentValue d argument = .ok v) (r : Repository) :
    select d r (some argument) =
      match r.findValue v with
      | .ok found => .ok (found.map (·.1))
      | .error (.invalidFilter faults) => .error (.invalidFilter (faults.map r.schema.diagnose))
      | .error (.query e) => .error (.query e) := by
  cases found : r.findValue v with
  | ok records => simp only [select, hv, found, Outcome.ok_bind, Outcome.pure_eq_ok]
  | error e => cases e <;> simp only [select, hv, found, Outcome.ok_bind, Outcome.pure_eq_ok]

/-- A rejected argument makes every command fail that checks it. -/
theorem result_of_rejected (h : Opens e i d c settings r)
    (hv : argumentValue d argument = .ok v) {faults : List Fault}
    (rejected : r.schema.validateValue v = .error faults) {a : Action} (ha : a.Checks argument) :
    (run e { i with action := a } d).result =
      .error (.invalidFilter (faults.map r.schema.diagnose)) := by
  have checked : checkFilter d r.schema argument =
      .error (.invalidFilter (faults.map r.schema.diagnose)) := by
    rw [checkFilter_eq hv, rejected]
    rfl
  cases ha with
  | validate =>
    rw [h.result_validate, checked]
    rfl
  | compile target => rw [h.result_compile, checked, Outcome.error_bind]
  | query countOnly limit =>
    rw [h.result_query, select_eq hv, Repository.findValue_of_error rejected]
    rfl

theorem select_of_accepted (h : Opens e i d c settings r)
    (hv : argumentValue d argument = .ok v) {filter : Option Filter}
    (accepted : r.schema.validateValue v = .ok filter)
    (small : ∀ leaf ∈ Filter.allLeaves filter, leaf.PatternFits) :
    select d r (some argument) =
      .ok (r.records.filter fun record => record.isSelectedBy filter) := by
  obtain ⟨-, valid⟩ := Schema.decode_of_validateValue accepted
  have found := Repository.finds_of_valid h.isReserved_eq_false valid small
  rw [select_eq hv, Repository.findValue_of_ok accepted, found.find]
  exact congrArg Except.ok (Repository.map_fst_filter_zipIdx filter r.records)

/-- An accepted argument makes every command succeed that checks it, if its patterns are not too
large. -/
theorem exists_result_of_accepted (h : Opens e i d c settings r)
    (hv : argumentValue d argument = .ok v) {filter : Option Filter}
    (accepted : r.schema.validateValue v = .ok filter)
    (small : ∀ leaf ∈ Filter.allLeaves filter, leaf.PatternFits) {a : Action}
    (ha : a.Checks argument) : ∃ text, (run e { i with action := a } d).result = .ok text := by
  obtain ⟨-, valid⟩ := Schema.decode_of_validateValue accepted
  have checked : checkFilter d r.schema argument = .ok filter := by
    rw [checkFilter_eq hv, accepted]
    rfl
  cases ha with
  | validate =>
    rw [h.result_validate, checked]
    exact ⟨_, rfl⟩
  | compile target =>
    obtain ⟨compiled, hcompiled, -⟩ :=
      Repository.exists_compile_of_valid valid (target.getD settings.target)
    rw [h.result_compile, checked, Outcome.ok_bind, hcompiled]
    exact ⟨_, rfl⟩
  | query countOnly limit =>
    rw [h.result_query, h.select_of_accepted hv accepted small]
    exact ⟨_, rfl⟩

/-! ## What is selected -/

variable {filter : Option Filter} {document : Document}

theorem result_compile_document (h : Opens e i d c settings r)
    (hv : argumentValue d argument = .ok v) (accepted : r.schema.validateValue v = .ok filter)
    (compiled : Filter.document filter = .ok document) :
    (run e { i with action := .compile argument (some .mongo) } d).result =
      .ok (present (i.display c) (Report.compiledLayout (.document document))
        (Report.compiledText (i.display c).colored (.document document))) := by
  have checked : checkFilter d r.schema argument = .ok filter := by
    rw [checkFilter_eq hv, accepted]
    rfl
  have target : Target.compile .mongo filter = .ok (.document document) := by
    rw [Target.compile, compiled]
    rfl
  rw [h.result_compile, checked, Outcome.ok_bind, Option.getD_some, target]
  rfl

/-- The records that are selected by a document that answers whether a filter holds are those of
which the filter holds. -/
theorem result_eval_of_answers (h : Opens e i d c settings r)
    (answers : ∀ record : Value,
      (Evaluator.of document).matches? record = .ok (record.isSelectedBy filter))
    {text : String} (htext : argumentValue d text = .ok document.toValue) (countOnly : Bool) :
    let found := r.records.filter fun record => record.isSelectedBy filter
    (run e { i with action := .eval text countOnly } d).result =
      .ok (presentRecords (i.display c) (Report.recordColumns found) r.size countOnly none
        found) := by
  intro found
  have selected := Repository.map_fst_filter_zipIdx filter r.records
  rw [h.result_eval htext, Repository.select_of_answers answers]
  simp only [Outcome.mapError_ok, Except.map, selected, found]

end Opens

/-- An argument that does not name a file is JSON itself. -/
theorem argumentValue_of_parse (d : Disk) {text : String} {v : Value}
    (direct : text.toList.head? ≠ some '@') (h : Json.parse text = some v) :
    argumentValue d text = .ok v := by
  unfold argumentValue
  split
  · next path named =>
    rw [named] at direct
    exact absurd rfl direct
  · simp only [Outcome.pure_eq_ok, Outcome.ok_bind, h]

theorem head?_compiledText (colored : Bool) (document : Document) :
    (Report.compiledText colored (.document document)).toList.head? = some '\x7b' := by
  obtain ⟨members⟩ := document
  cases members <;>
    simp [Report.compiledText, Document.toValue, Json.Layout.ofValue, Json.Layout.ofMembers,
      Json.Layout.render, Json.Layout.pretty]

/-- Checking a filter argument, compiling it and selecting records by it go together. An argument that
the schema rejects makes each of them fail with the same diagnostics and print nothing. One that it
accepts makes each of them succeed, if its patterns are not too large; then the records that are
selected by it are those for which it holds, in their order, and the very same records are selected
by every argument that reads as the document it compiles to. The text that is printed for this
document is such an argument if parsing gives back what has been printed. -/
theorem checks_agree {e : Environment} {i : Invocation} {d : Disk} {c : Config}
    {settings : Settings} {r : Repository} {argument : String} {v : Value}
    (opens : Opens e i d c settings r) (hv : argumentValue d argument = .ok v) :
    let outcome (a : Action) : Outcome := run e { i with action := a } d
    let how : Display := i.display c
    (∀ faults, r.schema.validateValue v = .error faults →
      let failure : CommandError := .invalidFilter (faults.map r.schema.diagnose)
      failure.code = "VALIDATION_ERROR" ∧ failure.exitStatus = 1 ∧
        ∀ a, a.Checks argument → (outcome a).result = .error failure ∧ (outcome a).printed = "") ∧
    ∀ filter, r.schema.validateValue v = .ok filter →
      (∀ leaf ∈ Filter.allLeaves filter, leaf.PatternFits) →
      (∀ a, a.Checks argument → ∃ text, (outcome a).result = .ok text) ∧
      let found := r.records.filter fun record => record.isSelectedBy filter
      ∃ document, Filter.document filter = .ok document ∧
        let text := Report.compiledText how.colored (.document document)
        (outcome (.compile argument (some .mongo))).result =
          .ok (present how (Report.compiledLayout (.document document)) text) ∧
        (∀ countOnly limit, (outcome (.query (some argument) countOnly limit)).result =
          .ok (presentRecords how (Report.schemaColumns r.schema found) r.size countOnly limit
            found)) ∧
        (∀ other, argumentValue d other = .ok document.toValue →
          ∀ countOnly, (outcome (.eval other countOnly)).result =
            .ok (presentRecords how (Report.recordColumns found) r.size countOnly none found)) ∧
        (Json.parse text = some document.toValue →
          argumentValue d text = .ok document.toValue) := by
  intro outcome how
  constructor
  · intro faults validated failure
    refine ⟨rfl, rfl, ?_⟩
    intro a ha
    have rejected : (outcome a).result = .error failure := opens.result_of_rejected hv validated ha
    refine ⟨rejected, ?_⟩
    rw [Outcome.printed, rejected]
  · intro filter validated small
    refine ⟨fun a ha => opens.exists_result_of_accepted hv validated small ha, ?_⟩
    intro found
    obtain ⟨-, valid⟩ := Schema.decode_of_validateValue validated
    obtain ⟨document, compiled⟩ := Filter.exists_document_of_valid valid
    -- one document stands behind all three outcomes, and it answers for every record
    have answers := Filter.matches?_of_valid opens.isReserved_eq_false valid small compiled
    refine ⟨document, compiled, opens.result_compile_document hv validated compiled, ?_, ?_, ?_⟩
    · intro countOnly limit
      show (run e _ d).result = _
      rw [opens.result_query, opens.select_of_accepted hv validated small]
      rfl
    · intro other hother countOnly
      exact opens.result_eval_of_answers answers hother countOnly
    · intro back
      refine argumentValue_of_parse d ?_ back
      rw [head?_compiledText]
      decide

/-- One argument is accepted, and what is printed for it selects what it selects; the other one asks
for a field that there is not. -/
theorem checks_agree_on_switches :
    let d : Disk := ⟨[
      (["schema.json"],
        "\x7b\"fields\":[\x7b\"name\":\"on\",\"type\":\"boolean\"\x7d]\x7d"),
      (["records.json"], "[\x7b\x7d,\x7b\"on\":true\x7d]")], []⟩
    let e : Environment := { config := some "config.toml" }
    let i : Invocation :=
      ⟨false, false, false, false, some "schema.json", some "records.json", .greet⟩
    let s : Schema := ⟨none, [{ name := "on", type := .boolean }]⟩
    let r : Repository := ⟨s, [.object [], .object [("on", .bool true)]]⟩
    let good :=
      "\x7b\"kind\":\"condition\",\"field\":\"on\",\"operator\":\"neq\",\"value\":true\x7d"
    let bad := "\x7b\"kind\":\"condition\",\"field\":\"onn\",\"operator\":\"is_null\"\x7d"
    let printed := Report.compiledText true (.document ⟨[("on", .object [("$ne", .bool true)])]⟩)
    let result (a : Action) := (run e { i with action := a } d).result
    Opens e i d {} ⟨some "schema.json", some "records.json", .mongo⟩ r ∧
      (∃ v, argumentValue d good = .ok v ∧
        result (.compile good (some .mongo)) = .ok printed ∧
        result (.query (some good) true none) = .ok "1\n" ∧
        result (.eval printed true) = .ok "1\n") ∧
      ∃ v, argumentValue d bad = .ok v ∧
        ∀ a, a.Checks bad → result a = .error (.invalidFilter
          [⟨"<root>.field", "Field \"onn\" is not allowed for filtering", some "on"⟩]) := by
  intro d e i s r good bad printed result
  have config : loadConfig e d = .ok {} :=
    Outcome.toOption_eq_some_iff.1 (by decide +kernel)
  have schema : loadSchema d "schema.json" = .ok s :=
    Outcome.toOption_eq_some_iff.1 (by decide +kernel)
  have records : loadRecords d "records.json" = .ok r.records :=
    Outcome.toOption_eq_some_iff.1 (by decide +kernel)
  have repository : openRepository ⟨some "schema.json", some "records.json", .mongo⟩ d = .ok r :=
    openRepository_eq_ok_iff.2 ⟨"schema.json", "records.json", rfl, rfl, schema, records⟩
  have opens : Opens e i d {} ⟨some "schema.json", some "records.json", .mongo⟩ r :=
    ⟨config, rfl, repository⟩
  have goodValue : argumentValue d good = .ok (.object [("field", .string "on"),
      ("kind", .string "condition"), ("operator", .string "neq"), ("value", .bool true)]) :=
    Outcome.toOption_eq_some_iff.1 (by decide +kernel)
  have badValue : argumentValue d bad = .ok (.object [("field", .string "onn"),
      ("kind", .string "condition"), ("operator", .string "is_null")]) :=
    Outcome.toOption_eq_some_iff.1 (by decide +kernel)
  obtain ⟨-, accepted⟩ := checks_agree opens goodValue
  obtain ⟨rejected, -⟩ := checks_agree opens badValue
  have valid : s.validateValue (.object [("field", .string "on"), ("kind", .string "condition"),
      ("operator", .string "neq"), ("value", .bool true)]) =
        .ok (some (.condition ⟨"on", .neq, some (.bool true)⟩)) := rfl
  have invalid : s.validateValue (.object [("field", .string "onn"), ("kind", .string "condition"),
      ("operator", .string "is_null")]) = .error [.undeclared "<root>.field" "onn"] := rfl
  refine ⟨opens, ⟨_, goodValue, ?_⟩, ⟨_, badValue, fun a ha => ?_⟩⟩
  · have small : ∀ leaf ∈ Filter.allLeaves (some (.condition ⟨"on", .neq, some (.bool true)⟩)),
        leaf.PatternFits := by
      intro leaf hleaf site text hsite
      rw [Filter.allLeaves, Filter.leaves_condition, List.mem_singleton] at hleaf
      subst hleaf
      cases hsite
    obtain ⟨-, document, compiled, hcompile, hquery, heval, reads⟩ := accepted _ valid small
    cases compiled
    have one : toString (r.records.filter fun record => record.isSelectedBy
        (some (.condition ⟨"on", .neq, some (.bool true)⟩))).length ++ "\n" = "1\n" := by
      decide +kernel
    refine ⟨hcompile, (hquery true none).trans (congrArg Except.ok one), ?_⟩
    exact (heval printed (reads (by decide +kernel)) true).trans (congrArg Except.ok one)
  · obtain ⟨-, -, fails⟩ := rejected _ invalid
    obtain ⟨failed, -⟩ := fails a ha
    exact failed

end Command

end SchemaFilter
