import SchemaFilter.Command.Run
import SchemaFilter.Proofs.Config.WrittenFile
import SchemaFilter.Proofs.Disk
import SchemaFilter.Proofs.Outcome

/-!
# Settings over a history of calls

The program is called again and again, and the configuration file is all that one call leaves to the
next. Each call that changes a setting reads the whole file, changes one value and writes the whole
file anew. Nothing is lost on this way: after any history, a setting has the value that it was given
last, or else the one it had in the beginning.

What a change is to do is said without the code that does it: `ConfigKey.value?` is the value that a
word stands for as a setting, and `assignment?` is the change that a call asks for, if it is one that
can be made.
-/

namespace SchemaFilter

/-! ## Values of settings -/

inductive SettingValue where
  | text (s : String)
  | flag (b : Bool)
deriving DecidableEq, Repr

/-- The truth value of a word in either case of letters. -/
def truthValue? (word : String) : Option Bool :=
  let lower := String.ofList (Unicode.toLower word)
  if lower ∈ ["true", "yes", "1", "on"] then some true
  else if lower ∈ ["false", "no", "0", "off"] then some false
  else none

/-- The value that a word stands for as a setting. -/
def ConfigKey.value? (word : String) : ConfigKey → Option SettingValue
  | schema | records => some (.text word)
  | target => if word = "mongo" ∨ word = "sql" then some (.text word) else none
  | color | pretty => (truthValue? word).map .flag

/-- The change of a setting by its name and a word, if there is such a setting and such a value. -/
def assignment? (name word : String) : Option (ConfigKey × SettingValue) := do
  let k ← ConfigKey.ofName? name
  (k.value? word).map (k, ·)

/-- The change of a setting that an action asks for, if it is one that can be made. -/
def Action.assignment? : Action → Option (ConfigKey × SettingValue)
  | .config (.set name word) => SchemaFilter.assignment? name word
  | _ => none

theorem toOption_readFlag (word : String) : (readFlag word).toOption = truthValue? word := by
  unfold readFlag truthValue?
  dsimp only
  split <;> simp_all [Except.toOption]

theorem Target.name_of_ofName {word : String} {t : Target} (h : ofName word = .ok t) :
    t.name = word := by
  unfold ofName at h
  split at h
  · next found =>
    cases h
    simpa using List.find?_some found
  · cases h

theorem Target.exists_ofName_iff {word : String} :
    (∃ t, ofName word = .ok t) ↔ word = "mongo" ∨ word = "sql" := by
  constructor
  · rintro ⟨t, ht⟩
    rw [← name_of_ofName ht]
    cases t with
    | mongo => exact .inl rfl
    | sql => exact .inr rfl
  · rintro (rfl | rfl)
    · exact ⟨.mongo, ofName_name .mongo⟩
    · exact ⟨.sql, ofName_name .sql⟩

namespace Config

def get (c : Config) : ConfigKey → Option SettingValue
  | .schema => c.schema.map .text
  | .records => c.records.map .text
  | .target => c.target.map .text
  | .color => c.color.map .flag
  | .pretty => c.pretty.map .flag

/-- Whether a configuration differs from another one in one setting alone, which has a given value.
-/
def Assigns (k : ConfigKey) (v : SettingValue) (c c' : Config) : Prop :=
  c'.get k = some v ∧ ∀ other, other ≠ k → c'.get other = c.get other

/-- A setting is changed if the word stands for a value, and to this value. -/
theorem setKey_of_value? {k : ConfigKey} {word : String} {v : SettingValue}
    (h : k.value? word = some v) (c : Config) : ∃ c', c.setKey k word = .ok c' ∧ Assigns k v c c' := by
  cases k with
  | schema | records =>
    cases h
    refine ⟨_, rfl, rfl, ?_⟩
    intro other different
    cases other <;> first | rfl | exact absurd rfl different
  | target =>
    simp only [ConfigKey.value?] at h
    split at h
    · next known =>
      cases h
      obtain ⟨t, ht⟩ := Target.exists_ofName_iff.2 known
      refine ⟨_, by rw [setKey, ht], rfl, ?_⟩
      intro other different
      cases other <;> first | rfl | exact absurd rfl different
    · cases h
  | color | pretty =>
    obtain ⟨b, hb, rfl⟩ := Option.map_eq_some_iff.1 h
    rw [← toOption_readFlag, Outcome.toOption_eq_some_iff] at hb
    refine ⟨_, by rw [setKey, hb]; rfl, rfl, ?_⟩
    intro other different
    cases other <;> first | rfl | exact absurd rfl different

/-- A word that stands for no value is refused. -/
theorem setKey_of_value?_eq_none {k : ConfigKey} {word : String} (h : k.value? word = none)
    (c : Config) : ∃ e, c.setKey k word = .error e := by
  cases k with
  | schema | records => cases h
  | target =>
    have unknown : ¬∃ t, Target.ofName word = .ok t := by
      intro known
      simp [ConfigKey.value?, Target.exists_ofName_iff.1 known] at h
    cases ht : Target.ofName word with
    | ok t => exact absurd ⟨t, ht⟩ unknown
    | error e => exact ⟨_, by rw [setKey, ht]⟩
  | color | pretty =>
    have noFlag : (readFlag word).toOption = none := by
      rw [toOption_readFlag]
      exact Option.map_eq_none_iff.1 h
    cases hb : readFlag word with
    | ok b => simp [hb, Except.toOption] at noFlag
    | error e => exact ⟨e, by rw [setKey, hb]; rfl⟩

theorem set_of_assignment? {name word : String} {k : ConfigKey} {v : SettingValue}
    (h : assignment? name word = some (k, v)) (c : Config) :
    ∃ c', c.set name word = .ok c' ∧ Assigns k v c c' := by
  obtain ⟨key, hkey, rest⟩ := Option.bind_eq_some_iff.1 h
  obtain ⟨value, hvalue, same⟩ := Option.map_eq_some_iff.1 rest
  cases same
  rw [set, hkey]
  exact setKey_of_value? hvalue c

theorem set_of_assignment?_eq_none {name word : String} (h : assignment? name word = none)
    (c : Config) : ∃ e, c.set name word = .error e := by
  rw [set]
  cases hkey : ConfigKey.ofName? name with
  | none => exact ⟨_, rfl⟩
  | some k =>
    have refused : k.value? word = none := by simpa [assignment?, hkey] using h
    exact setKey_of_value?_eq_none refused c

/-- The version that a file states. -/
def fileVersion? (text : String) : Option Toml := do
  List.lookup "version" (← Toml.view.members? (← Toml.parse text))

theorem fileVersion?_write (c : Config) : fileVersion? c.write = some (.integer 1) := by
  rw [fileVersion?, parse_write]
  rfl

end Config

/-! ## Disks with a configuration -/

namespace Disk

/-- Whether a configuration is in the file at a path, or is the empty one because there is no file. -/
def Holds (d : Disk) (path : String) (c : Config) : Prop :=
  (d.has path = false ∧ c = {}) ∨ ∃ text, d.read path = .ok text ∧ Config.read? text = some c

/-- Whether a disk is left by the assignment of a value to a setting on another one: the file at the
path states the present version and holds a configuration where the setting has the value, and the
others have theirs from before. Files at other places are as they were. -/
def Assigned (path : String) (k : ConfigKey) (v : SettingValue) (before after : Disk) : Prop :=
  ∃ place text c c', before.Holds path c ∧ after.place path = .ok (.file place text) ∧
    Config.read? text = some c' ∧ Config.fileVersion? text = some (.integer 1) ∧
    Config.Assigns k v c c' ∧
    ∀ other, other ≠ place → List.lookup other after.files = List.lookup other before.files

variable {d d' : Disk} {path : String} {c c' : Config}

theorem Holds.unique (h : d.Holds path c) (h' : d.Holds path c') : c = c' := by
  rcases h with ⟨missing, rfl⟩ | ⟨text, read, parsed⟩
  · rcases h' with ⟨-, rfl⟩ | ⟨text', read', -⟩
    · rfl
    · rw [d.has_of_read read'] at missing
      cases missing
  · rcases h' with ⟨missing, -⟩ | ⟨text', read', parsed'⟩
    · rw [d.has_of_read read] at missing
      cases missing
    · rw [read] at read'
      cases read'
      exact Option.some.inj (parsed.symm.trans parsed')

theorem assigned_of_write {k : ConfigKey} {v : SettingValue} (holds : d.Holds path c)
    (assigns : Config.Assigns k v c c') (written : d.write path c'.write = .ok d') :
    Assigned path k v d d' ∧ d'.Writable path := by
  obtain ⟨place, names, writable, -, elsewhere⟩ := Disk.written written
  exact ⟨⟨place, c'.write, c, c', holds, names, Config.read?_write c', Config.fileVersion?_write c',
    assigns, elsewhere⟩, writable⟩

/-- The configuration after an assignment has the value, and the others from before. -/
theorem Assigned.exists_holds {k : ConfigKey} {v : SettingValue} (h : Assigned path k v d d')
    (holds : d.Holds path c) : ∃ c', d'.Holds path c' ∧ Config.Assigns k v c c' := by
  obtain ⟨place, text, before, c', holds', names, parsed, -, assigns, -⟩ := h
  obtain rfl := holds.unique holds'
  exact ⟨c', .inr ⟨text, d'.read_of_place names, parsed⟩, assigns⟩

end Disk

namespace Command

variable {e : Environment} {i : Invocation} {d : Disk} {path : String} {c : Config}

theorem loadConfig_of_holds (located : e.configPath = .ok path) (h : d.Holds path c) :
    loadConfig e d = .ok c := by
  rw [loadConfig, located, Outcome.ok_bind]
  rcases h with ⟨missing, rfl⟩ | ⟨text, read, parsed⟩
  · rw [missing]
    rfl
  · have there : d.has path = true := d.has_of_read read
    simp only [there, read, parsed]
    rfl

theorem run_eq_runWith (located : e.configPath = .ok path) (h : d.Holds path c) (i : Invocation) :
    run e i d = runWith i path d c := by
  rw [run, located, loadConfig_of_holds located h]

/-- A change that cannot be made fails and leaves the disk as it is. -/
theorem runWith_of_assignment?_eq_none {name word : String}
    (haction : i.action = .config (.set name word)) (h : assignment? name word = none) :
    (∃ e, (runWith i path d c).result = .error (.config (.setting e))) ∧
      (runWith i path d c).disk = d := by
  obtain ⟨e, refused⟩ := Config.set_of_assignment?_eq_none h c
  have failed : setConfig (i.display c) path d c name word = .error (.setting e) := by
    rw [setConfig, refused]
    rfl
  have outcome : runWith i path d c = ⟨"", .error (.config (.setting e)), d⟩ := by
    simp only [runWith, haction, runConfig, failed]
  rw [outcome]
  exact ⟨⟨e, rfl⟩, rfl⟩

/-- An action that makes no change leaves the disk as it is. -/
theorem disk_runWith (h : i.action.assignment? = none) : (runWith i path d c).disk = d := by
  cases haction : i.action with
  | config action =>
    cases action with
    | set name word =>
      rw [haction] at h
      exact (runWith_of_assignment?_eq_none haction h).2
    | «show» | path =>
      simp only [runWith, haction]
      rfl
  | greet | completions _ => simp only [runWith, haction]
  | validate _ | compile _ _ | query _ _ _ | eval _ _ | schema =>
    simp only [runWith, haction]
    split <;> rfl

/-- A change that can be made succeeds, and writes the configuration with the new value. -/
theorem runWith_of_assignment? {k : ConfigKey} {v : SettingValue}
    (h : i.action.assignment? = some (k, v)) (writable : d.Writable path) :
    (∃ text, (runWith i path d c).result = .ok text) ∧
      ∃ c', Config.Assigns k v c c' ∧ d.write path c'.write = .ok (runWith i path d c).disk := by
  obtain ⟨name, word, haction⟩ : ∃ name word, i.action = .config (.set name word) := by
    unfold Action.assignment? at h
    split at h
    · next name word haction => exact ⟨name, word, haction⟩
    · cases h
  rw [haction] at h
  obtain ⟨c', changed, assigns⟩ := Config.set_of_assignment? h c
  obtain ⟨d', saved⟩ := writable c'.write
  have succeeded : ∃ text, setConfig (i.display c) path d c name word = .ok (text, d') := by
    rw [setConfig, changed]
    simp only [Outcome.mapError_ok, Outcome.ok_bind, saveConfig, saved]
    exact ⟨_, rfl⟩
  obtain ⟨text, succeeded⟩ := succeeded
  have outcome : runWith i path d c = ⟨"", .ok text, d'⟩ := by
    simp only [runWith, haction, runConfig, succeeded]
  rw [outcome]
  exact ⟨⟨text, rfl⟩, c', assigns, saved⟩

end Command

/-! ## Calls -/

structure Call where
  environment : Environment
  arguments : List String

namespace Call

def invocation (call : Call) : Except Usage Invocation :=
  Invocation.read call.environment.options call.arguments

def outcome (call : Call) (d : Disk) : Except Usage Outcome :=
  call.invocation.map fun i => Command.run call.environment i d

/-- The disk after a call. Arguments that do not fit leave nothing to do. -/
def disk (call : Call) (d : Disk) : Disk :=
  match call.outcome d with
  | .ok o => o.disk
  | .error _ => d

/-- The change of a setting that a call asks for, if it is one that can be made. -/
def assignment? (call : Call) : Option (ConfigKey × SettingValue) :=
  call.invocation.toOption.bind (·.action.assignment?)

end Call

/-- The disk after a history of calls. -/
def Disk.after (d : Disk) (history : List Call) : Disk :=
  history.foldl (fun d call => call.disk d) d

/-- The value that a history gives a setting last. -/
def lastAssigned (k : ConfigKey) (history : List Call) : Option SettingValue :=
  List.lookup k (history.filterMap Call.assignment?).reverse

namespace Call

variable {call : Call} {d : Disk} {path : String} {c : Config}

theorem outcome_of_invocation (located : call.environment.configPath = .ok path)
    (holds : d.Holds path c) {i : Invocation} (h : call.invocation = .ok i) :
    call.outcome d = .ok (Command.runWith i path d c) := by
  rw [outcome, h, Except.map, Command.run_eq_runWith located holds]

theorem disk_of_assignment?_eq_none (located : call.environment.configPath = .ok path)
    (holds : d.Holds path c) (h : call.assignment? = none) : call.disk d = d := by
  cases hi : call.invocation with
  | error usage => simp only [disk, outcome, hi, Except.map]
  | ok i =>
    rw [assignment?, hi] at h
    rw [disk, outcome_of_invocation located holds hi]
    exact Command.disk_runWith h

theorem outcome_of_refused (located : call.environment.configPath = .ok path)
    (holds : d.Holds path c) {i : Invocation} {name word : String} (hi : call.invocation = .ok i)
    (haction : i.action = .config (.set name word)) (h : call.assignment? = none) :
    ∃ o e, call.outcome d = .ok o ∧ o.result = .error (.config (.setting e)) := by
  have refused : SchemaFilter.assignment? name word = none := by
    simpa [assignment?, hi, Except.toOption, haction, Action.assignment?] using h
  obtain ⟨⟨e, failed⟩, -⟩ := Command.runWith_of_assignment?_eq_none haction refused
  exact ⟨_, e, outcome_of_invocation located holds hi, failed⟩

theorem assigned_disk (located : call.environment.configPath = .ok path)
    (holds : d.Holds path c) (writable : d.Writable path) {k : ConfigKey} {v : SettingValue}
    (h : call.assignment? = some (k, v)) :
    (∃ o text, call.outcome d = .ok o ∧ o.result = .ok text) ∧
      Disk.Assigned path k v d (call.disk d) ∧ (call.disk d).Writable path := by
  obtain ⟨i, hi, asked⟩ := Option.bind_eq_some_iff.1 h
  rw [Outcome.toOption_eq_some_iff] at hi
  have carriedOut := outcome_of_invocation located holds hi
  obtain ⟨⟨text, succeeded⟩, c', assigns, written⟩ :=
    Command.runWith_of_assignment? (c := c) asked writable
  rw [disk, carriedOut]
  exact ⟨⟨_, text, rfl, succeeded⟩, Disk.assigned_of_write holds assigns written⟩

/-- After a call there is a configuration again, in which the setting that it has changed, if any,
has its new value and the others have theirs from before. -/
theorem exists_holds_disk (located : call.environment.configPath = .ok path)
    (holds : d.Holds path c) (writable : d.Writable path) :
    ∃ c', (call.disk d).Holds path c' ∧ (call.disk d).Writable path ∧
      ∀ k, c'.get k = (List.lookup k call.assignment?.toList).or (c.get k) := by
  cases h : call.assignment? with
  | none =>
    rw [disk_of_assignment?_eq_none located holds h]
    exact ⟨c, holds, writable, fun k => rfl⟩
  | some change =>
    obtain ⟨key, v⟩ := change
    obtain ⟨-, assigned, writable'⟩ := assigned_disk located holds writable h
    obtain ⟨c', holds', same, kept⟩ := assigned.exists_holds holds
    refine ⟨c', holds', writable', ?_⟩
    intro k
    by_cases here : k = key
    · subst here
      rw [same]
      simp
    · have apart : (k == key) = false := beq_eq_false_iff_ne.2 here
      rw [kept k here]
      simp [List.lookup_cons, apart]

end Call

/-! ## Histories -/

section History

variable {d : Disk} {path : String} {c : Config} {history : List Call}

theorem lastAssigned_cons (k : ConfigKey) (call : Call) (history : List Call) :
    lastAssigned k (call :: history) =
      (lastAssigned k history).or (List.lookup k call.assignment?.toList) := by
  rw [lastAssigned, lastAssigned, List.filterMap_cons]
  cases call.assignment? with
  | none => simp
  | some change => rw [List.reverse_cons, List.lookup_append, Option.toList_some]

/-- After a history there is a configuration again, with the values that have been assigned last. -/
theorem Disk.exists_holds_after (holds : d.Holds path c) (writable : d.Writable path)
    (located : ∀ call ∈ history, call.environment.configPath = .ok path) :
    ∃ c', (d.after history).Holds path c' ∧ (d.after history).Writable path ∧
      ∀ k, c'.get k = (lastAssigned k history).or (c.get k) := by
  -- The first call leaves a disk with another configuration, from which the others start.
  induction history generalizing d c with
  | nil => exact ⟨c, holds, writable, fun k => rfl⟩
  | cons call history ih =>
    obtain ⟨c₁, holds₁, writable₁, first⟩ :=
      Call.exists_holds_disk (located call List.mem_cons_self) holds writable
    obtain ⟨c', holds', writable', others⟩ :=
      ih holds₁ writable₁ fun later hlater => located later (List.mem_cons_of_mem _ hlater)
    refine ⟨c', holds', writable', ?_⟩
    intro k
    rw [others, first, lastAssigned_cons, Option.or_assoc]

/-- A history without any change leaves the disk as it is. -/
theorem Disk.after_eq_self (holds : d.Holds path c)
    (located : ∀ call ∈ history, call.environment.configPath = .ok path)
    (unchanged : ∀ call ∈ history, call.assignment? = none) : d.after history = d := by
  induction history with
  | nil => rfl
  | cons call history ih =>
    have first : call.disk d = d :=
      Call.disk_of_assignment?_eq_none (located call List.mem_cons_self) holds
        (unchanged call List.mem_cons_self)
    rw [after, List.foldl_cons, first]
    exact ih (fun later hlater => located later (List.mem_cons_of_mem _ hlater))
      fun later hlater => unchanged later (List.mem_cons_of_mem _ hlater)

/-- Settings are neither lost nor changed by halves. On a disk with a configuration or without the
file for it, where writing does not fail, there is a configuration after every history of calls, in
which each setting has the value that was assigned to it last, or else its first one. What the next
call does to the disk is then one of two things. If it asks for a change that can be made, it
succeeds and assigns the value to the setting, and to nothing else. In all other cases it leaves the
whole disk as it is, and it fails if it has asked for a change. -/
theorem settings_after (holds : d.Holds path c) (writable : d.Writable path)
    (located : ∀ call ∈ history, call.environment.configPath = .ok path) :
    (∃ c', (d.after history).Holds path c' ∧
      ∀ k, c'.get k = (lastAssigned k history).or (c.get k)) ∧
    ((∀ call ∈ history, call.assignment? = none) → d.after history = d) ∧
    ∀ call : Call, call.environment.configPath = .ok path →
      let before := d.after history
      (∀ k v, call.assignment? = some (k, v) →
        (∃ o text, call.outcome before = .ok o ∧ o.result = .ok text) ∧
          Disk.Assigned path k v before (call.disk before)) ∧
      (call.assignment? = none →
        call.disk before = before ∧
          ∀ i name word, call.invocation = .ok i → i.action = .config (.set name word) →
            ∃ o e, call.outcome before = .ok o ∧ o.result = .error (.config (.setting e))) := by
  obtain ⟨c', holds', writable', values⟩ := Disk.exists_holds_after holds writable located
  refine ⟨⟨c', holds', values⟩, Disk.after_eq_self holds located, ?_⟩
  intro call hcall
  constructor
  · intro k v h
    obtain ⟨succeeded, assigned, -⟩ := Call.assigned_disk hcall holds' writable' h
    exact ⟨succeeded, assigned⟩
  · intro h
    refine ⟨Call.disk_of_assignment?_eq_none hcall holds' h, ?_⟩
    intro i name word hi haction
    exact Call.outcome_of_refused hcall holds' hi haction h

/-- On an empty disk a target is chosen, color is switched off, an unknown target is refused and
another one is chosen. A switch is turned off next. -/
theorem settings_after_four_calls :
    let call (arguments : List String) : Call := ⟨{ config := some "config.toml" }, arguments⟩
    let history : List Call := [call ["config", "set", "target", "sql"],
      call ["-q", "config", "set", "output.color", "OFF"], call ["config", "set", "target", "csv"],
      call ["config", "set", "target", "mongo"]]
    let next : Call := call ["config", "set", "output.pretty", "no"]
    let before : Disk := Disk.after ⟨[], []⟩ history
    (∃ c, before.Holds "config.toml" c ∧ c.get .target = some (.text "mongo") ∧
      c.get .color = some (.flag false) ∧ c.get .schema = none) ∧
    Disk.Assigned "config.toml" .pretty (.flag false) before (next.disk before) := by
  intro call history next before
  have holds : Disk.Holds ⟨[], []⟩ "config.toml" {} := .inl ⟨by decide +kernel, rfl⟩
  have writable : Disk.Writable ⟨[], []⟩ "config.toml" := fun text => ⟨_, rfl⟩
  have located : ∀ call ∈ history, call.environment.configPath = .ok "config.toml" := by
    simp only [history, List.forall_mem_cons]
    exact ⟨rfl, rfl, rfl, rfl, nofun⟩
  obtain ⟨⟨c, hc, values⟩, -, further⟩ := settings_after holds writable located
  refine ⟨⟨c, hc, ?_, ?_, ?_⟩, ((further next rfl).1 .pretty (.flag false) ?_).2⟩
  · rw [values]
    decide +kernel
  · rw [values]
    decide +kernel
  · rw [values]
    decide +kernel
  · decide +kernel

end History

end SchemaFilter
