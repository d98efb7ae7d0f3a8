import SchemaFilter.Disk

/-!
# What has been written

A text that is written is found again under its path, and can be replaced under it. Nothing else on
the disk is lost: every folder is still there, and so is the text of every other file.

A disk lies below another one if its folders are folders there as well. Names that have led through
folders once do so on every disk above.
-/

namespace SchemaFilter.Disk

/-! ## Folders -/

/-- Whether every folder of a disk is a folder of another one. -/
def Below (d d' : Disk) : Prop :=
  ∀ place, d.isFolder place = true → d'.isFolder place = true

theorem Below.refl (d : Disk) : d.Below d :=
  fun _ h => h

theorem Below.trans {d d' d'' : Disk} (h : d.Below d') (h' : d'.Below d'') : d.Below d'' :=
  fun place isFolder => h' place (h place isFolder)

/-- A folder that is made is there, and so are those that have been there before. -/
theorem isFolder_made (d : Disk) (path place : List String) :
    isFolder { d with folders := path :: d.folders } place =
      (place == path || d.isFolder place) := by
  simp only [isFolder, List.contains_cons]
  cases place == path <;> simp

/-- Whether a name leads anywhere. -/
def isNamed (name : String) : Bool :=
  name != "" && name != "."

theorem isNamed_iff {name : String} : isNamed name = true ↔ name ≠ "" ∧ name ≠ "." := by
  simp [isNamed]

/-- Names that lead nowhere can be left out in front of others. At the end of a path they cannot: no
name at all may come after a file. -/
theorem follow_filter_append (d : Disk) (names : List String) {rest : List String}
    (more : rest ≠ []) (folder : List String) :
    d.follow folder (names ++ rest) = d.follow folder (names.filter isNamed ++ rest) := by
  induction names generalizing folder with
  | nil => rfl
  | cons name names ih =>
    have leads (cs : List String) : (cs ++ rest).isEmpty = false := by simp [more]
    by_cases named : isNamed name = true
    · rw [List.filter_cons_of_pos named, List.cons_append, List.cons_append, follow, follow]
      simp only [ih, leads]
    · have skipped : name = "" ∨ name = "." := by
        have := mt isNamed_iff.2 named
        grind
      rw [List.filter_cons_of_neg named, List.cons_append, follow, if_pos skipped, ih]

/-- Whether names lead from one folder to another, through folders that there are already. -/
structure Walks (d : Disk) (folder names last : List String) : Prop where
  follow_eq : ∀ rest, d.follow folder (names ++ rest) = d.follow last rest
  makeFolders_eq : d.makeFolders folder names = some (d, last)

namespace Walks

variable {d : Disk} {folder names last : List String}

theorem nil (d : Disk) (folder : List String) : d.Walks folder [] folder :=
  ⟨fun _ => rfl, rfl⟩

theorem up (h : d.Walks (parent folder) names last) : d.Walks folder (".." :: names) last where
  follow_eq rest := by
    rw [List.cons_append, follow, if_neg (by decide), if_pos rfl, h.follow_eq]
  makeFolders_eq := by rw [makeFolders, if_pos rfl, h.makeFolders_eq]

theorem down {name : String} (named : isNamed name = true) (down : name ≠ "..")
    (isFolder : d.isFolder (folder ++ [name]) = true) (h : d.Walks (folder ++ [name]) names last) :
    d.Walks folder (name :: names) last where
  follow_eq rest := by
    have leads : ¬(name = "" ∨ name = ".") := by
      have := isNamed_iff.1 named
      grind
    simp only [List.cons_append, follow, leads, down, isFolder, if_true, if_false, h.follow_eq]
  makeFolders_eq := by
    simp only [makeFolders, down, isFolder, if_true, if_false, h.makeFolders_eq]

end Walks

/-- Making folders leaves files and folders as they are. On every disk above, the names lead to the
same place. -/
theorem walks_of_makeFolders {d made : Disk} {folder names last : List String}
    (named : ∀ name ∈ names, isNamed name = true)
    (h : d.makeFolders folder names = some (made, last)) :
    made.files = d.files ∧ d.Below made ∧ ∀ d', made.Below d' → d'.Walks folder names last := by
  -- The disk changes on the way, so the rest of the names starts from another one.
  induction names generalizing d folder with
  | nil =>
    cases h
    exact ⟨rfl, .refl _, fun d' _ => .nil d' _⟩
  | cons name names ih =>
    have named' : ∀ name ∈ names, isNamed name = true :=
      fun name hname => named name (List.mem_cons_of_mem _ hname)
    have namedFirst := named name List.mem_cons_self
    by_cases isUp : name = ".."
    · subst isUp
      rw [makeFolders, if_pos rfl] at h
      obtain ⟨files, below, walks⟩ := ih named' h
      exact ⟨files, below, fun d' above => (walks d' above).up⟩
    · simp only [makeFolders, isUp, if_false] at h
      split at h
      · next there =>
        obtain ⟨files, below, walks⟩ := ih named' h
        refine ⟨files, below, ?_⟩
        intro d' above
        exact (walks d' above).down namedFirst isUp (above _ (below _ there))
      · split at h
        · cases h
        · obtain ⟨files, below, walks⟩ := ih named' h
          refine ⟨files, ?_, ?_⟩
          · intro place isFolder
            apply below
            rw [isFolder_made, isFolder, Bool.or_true]
          · intro d' above
            refine (walks d' above).down namedFirst isUp (above _ (below _ ?_))
            simp [isFolder_made]

/-! ## Files -/

theorem lookup_replace (files : List (List String × String)) (target place : List String)
    (text : String) :
    List.lookup place (files.map fun (p, t) => if p = target then (p, text) else (p, t)) =
      if place = target then (List.lookup place files).map fun _ => text
      else List.lookup place files := by
  induction files with
  | nil => simp
  | cons file files ih =>
    obtain ⟨p, t⟩ := file
    rw [List.map_cons, List.lookup_cons, List.lookup_cons, ih]
    by_cases here : place = p
    · subst here
      by_cases same : place = target <;> simp [same]
    · have apart : (place == p) = false := beq_eq_false_iff_ne.2 here
      by_cases same : p = target
      · subst same
        simp [here, apart]
      · simp [same, apart]

/-- A file has the text that has been put there, and every other file the text it had. -/
theorem lookup_put (d : Disk) (target place : List String) (text : String) :
    List.lookup place (d.put target text).files =
      if place = target then some text else List.lookup place d.files := by
  unfold put
  split
  · next there =>
    obtain ⟨old, hold⟩ := Option.isSome_iff_exists.1 there
    rw [lookup_replace]
    by_cases same : place = target
    · subst same
      simp [hold]
    · simp [same]
  · next missing =>
    rw [List.lookup_append]
    by_cases same : place = target
    · subst same
      simp [Option.not_isSome_iff_eq_none.1 missing]
    · have apart : (place == target) = false := beq_eq_false_iff_ne.2 same
      simp [List.lookup_cons, same, apart]

theorem folders_put (d : Disk) (target : List String) (text : String) :
    (d.put target text).folders = d.folders := by
  unfold put
  split <;> rfl

/-- A place is a folder if it has been made, or if there is a file below it. -/
theorem isFolder_iff {d : Disk} {place : List String} :
    d.isFolder place = true ↔ (isAbove place = true ∨ place = [top]) ∨ place ∈ d.folders ∨
      ∃ path, (List.lookup path d.files).isSome = true ∧ place <+: path ∧
        place.length < path.length := by
  have below : (d.files.any fun (p, _) => place.isPrefixOf p && place.length < p.length) = true ↔
      ∃ path, (List.lookup path d.files).isSome = true ∧ place <+: path ∧
        place.length < path.length := by
    simp only [List.any_eq_true, List.lookup_isSome_iff, Bool.and_eq_true, decide_eq_true_eq,
      List.isPrefixOf_iff_prefix, beq_iff_eq]
    constructor
    · rintro ⟨⟨path, text⟩, hfile, hprefix, shorter⟩
      exact ⟨path, ⟨_, hfile, rfl⟩, hprefix, shorter⟩
    · rintro ⟨_, ⟨file, hfile, rfl⟩, hprefix, shorter⟩
      exact ⟨file, hfile, hprefix, shorter⟩
  simp only [isFolder, Bool.or_eq_true, below, beq_iff_eq, List.contains_iff_mem, or_assoc]

theorem below_put (d : Disk) (target : List String) (text : String) :
    d.Below (d.put target text) := by
  intro place h
  rw [isFolder_iff] at h ⊢
  rw [folders_put]
  obtain known | made | ⟨path, hpath, within⟩ := h
  · exact .inl known
  · exact .inr (.inl made)
  · refine .inr (.inr ⟨path, ?_, within⟩)
    rw [lookup_put]
    split
    · rfl
    · exact hpath

theorem isFolder_put_self {d : Disk} {target : List String} (free : d.isFolder target = false)
    (text : String) : (d.put target text).isFolder target = false := by
  rw [Bool.eq_false_iff] at free ⊢
  intro h
  apply free
  rw [isFolder_iff] at h ⊢
  rw [folders_put] at h
  obtain known | made | ⟨path, hpath, within, shorter⟩ := h
  · exact .inl known
  · exact .inr (.inl made)
  · have other : path ≠ target := by
      rintro rfl
      exact Nat.lt_irrefl _ shorter
    rw [lookup_put, if_neg other] at hpath
    exact .inr (.inr ⟨path, hpath, within, shorter⟩)

/-! ## Writing -/

/-- Where a text goes that is written: the disk with the folders that lead there, and the place. -/
inductive Leads (d : Disk) (path : String) : Disk → List String → Prop where
  | intro {before folder : List String} {name : String} {made : Disk}
      (names : (split path).2 = before ++ [name]) (named : isNamed name = true) (down : name ≠ "..")
      (makes : d.makeFolders (split path).1 (before.filter isNamed) = some (made, folder))
      (free : made.isFolder (folder ++ [name]) = false) : Leads d path made (folder ++ [name])

/-- The last of the names that lead somewhere, if it is the last of all. -/
theorem reverse_filter_isNamed {before : List String} {name : String}
    (named : isNamed name = true) :
    ((before ++ [name]).filter isNamed).reverse = name :: (before.filter isNamed).reverse := by
  simp [List.filter_append, named]

theorem write_eq_ok_iff {d d' : Disk} {path text : String} :
    d.write path text = .ok d' ↔
      ∃ made target, d.Leads path made target ∧ d' = made.put target text := by
  have parts_eq : parts path = ((split path).1, (split path).2.filter isNamed) := rfl
  unfold write
  rw [parts_eq]
  dsimp only
  constructor
  · intro h
    split at h
    · cases h
    · next name before hnames =>
      split at h
      · cases h
      · next made folder makes =>
        split at h
        · cases h
        · next allowed =>
          cases h
          simp only [not_or] at allowed
          obtain ⟨down, notEmpty, notSame, free⟩ := allowed
          -- The last of all names leads somewhere, so it is the last one that does.
          obtain none' | ⟨init, last, names⟩ := List.eq_nil_or_concat (split path).2
          · simp [none'] at hnames
          · rw [List.concat_eq_append] at names
            rw [names, List.getLast?_concat, Option.getD_some] at notEmpty notSame
            have named : isNamed last = true := isNamed_iff.2 ⟨notEmpty, notSame⟩
            rw [names, reverse_filter_isNamed named] at hnames
            cases hnames
            rw [List.reverse_reverse] at makes
            exact ⟨made, _, ⟨names, named, down, makes, Bool.eq_false_iff.2 free⟩, rfl⟩
  · rintro ⟨made, _, ⟨names, named, down, makes, free⟩, rfl⟩
    obtain ⟨notEmpty, notSame⟩ := isNamed_iff.1 named
    simp only [names, reverse_filter_isNamed named, List.reverse_reverse, makes,
      List.getLast?_concat, Option.getD_some, down, notEmpty, notSame, free, or_self, if_false,
      Bool.false_eq_true]

namespace Leads

variable {d made : Disk} {path : String} {target : List String}

theorem isEmpty_eq_false (h : d.Leads path made target) : path.isEmpty = false := by
  obtain @⟨before, _, name, _, names, named, -, -, -⟩ := h
  rw [Bool.eq_false_iff]
  intro empty
  rw [String.isEmpty_iff.1 empty] at names
  have one : [""] = before ++ [name] := names
  obtain rfl : "" = name := by simpa using congrArg List.getLast? one
  cases named

theorem files_eq (h : d.Leads path made target) : made.files = d.files := by
  obtain ⟨-, -, -, makes, -⟩ := h
  exact (walks_of_makeFolders (by simp) makes).1

theorem below (h : d.Leads path made target) : d.Below made := by
  obtain ⟨-, -, -, makes, -⟩ := h
  exact (walks_of_makeFolders (by simp) makes).2.1

/-- Once a text has been put there, the path leads to the same place, and needs no more folders. -/
theorem put (h : d.Leads path made target) (text : String) :
    (made.put target text).Leads path (made.put target text) target := by
  obtain @⟨before, folder, name, made, names, named, down, makes, free⟩ := h
  have walks := (walks_of_makeFolders (by simp) makes).2.2 _
    (below_put made (folder ++ [name]) text)
  exact ⟨names, named, down, walks.makeFolders_eq, isFolder_put_self free text⟩

theorem place_put (h : d.Leads path made target) (text : String) :
    (made.put target text).place path = .ok (.file target text) := by
  have notEmpty := h.isEmpty_eq_false
  obtain @⟨before, folder, name, made, names, named, down, makes, free⟩ := h
  have walks := (walks_of_makeFolders (by simp) makes).2.2 _
    (below_put made (folder ++ [name]) text)
  have skipped : ¬(name = "" ∨ name = ".") := not_or.2 (isNamed_iff.1 named)
  rw [place, notEmpty]
  simp only [Bool.false_eq_true, if_false, names]
  rw [follow_filter_append _ _ (by simp), walks.follow_eq]
  simp only [follow, skipped, down, isFolder_put_self free, lookup_put, if_true, if_false,
    Bool.false_eq_true, List.isEmpty_nil]

end Leads

/-! ## What is read after writing -/

def Writable (d : Disk) (path : String) : Prop :=
  ∀ text, ∃ d', d.write path text = .ok d'

/-- A written text is the one that is found under its path, where others can be written again. The
files at other places keep their texts, and the folders are still there. -/
theorem written {d d' : Disk} {path text : String} (h : d.write path text = .ok d') :
    ∃ target, d'.place path = .ok (.file target text) ∧ d'.Writable path ∧ d.Below d' ∧
      ∀ place, place ≠ target → List.lookup place d'.files = List.lookup place d.files := by
  obtain ⟨made, target, leads, rfl⟩ := write_eq_ok_iff.1 h
  refine ⟨target, leads.place_put text, ?_, leads.below.trans (below_put made target text), ?_⟩
  · intro other
    exact ⟨_, write_eq_ok_iff.2 ⟨_, _, leads.put text, rfl⟩⟩
  · intro place elsewhere
    rw [lookup_put, if_neg elsewhere, leads.files_eq]

theorem read_of_place {d : Disk} {path text : String} {target : List String}
    (h : d.place path = .ok (.file target text)) : d.read path = .ok text := by
  rw [read, h]

theorem has_of_read {d : Disk} {path text : String} (h : d.read path = .ok text) :
    d.has path = true := by
  rw [has]
  cases hplace : d.place path with
  | ok place => rfl
  | error e =>
    rw [read, hplace] at h
    cases h

end SchemaFilter.Disk
