import Mathlib.Data.List.SplitBy
import SchemaFilter.Proofs.Sql.Grammar

/-!
# Tokens in a text

A text of SQL is cut where one kind of character ends and another begins; parentheses, commas and
question marks stand alone, and blanks count for nothing. A word that SQL does not keep for itself
is a name, whatever letters of whatever script, digits and underscores it consists of. Capital and
small letters make no difference to keywords.

`Spells` says the converse, how tokens are set as text. Tokens with plain names are found again in
the text that spells them. For other names, such as one with a blank in it, the text may be cut in
other places; it still spells the tokens.
-/

namespace SchemaFilter.Sql

/-! ## Texts -/

namespace Keyword

def all : List Keyword :=
  [and, or, within, between, like, is, not, null]

def text : Keyword → String
  | and => "AND"
  | or => "OR"
  | within => "IN"
  | between => "BETWEEN"
  | like => "LIKE"
  | is => "IS"
  | not => "NOT"
  | null => "NULL"

/-- The keyword that a word stands for, in capital or small letters. -/
def ofWord? (word : List Char) : Option Keyword :=
  all.find? fun k => k.text.toList = word.map Char.toUpper

end Keyword

namespace Sign

def all : List Sign :=
  [equal, unequal, greater, less, atLeast, atMost]

def text : Sign → String
  | equal => "="
  | unequal => "<>"
  | greater => ">"
  | less => "<"
  | atLeast => ">="
  | atMost => "<="

end Sign

/-- The text of a token. Bound values have no text, so they are left as placeholders. -/
def Token.text : Token → String
  | name text => text
  | keyword k => k.text
  | sign s => s.text
  | operand _ => "?"
  | opening => "("
  | closing => ")"
  | comma => ","

/-! ## Cutting a text -/

/-- What a character is good for. -/
inductive Kind where
  | blank
  | word
  | sign
  | single
deriving DecidableEq, Repr

/-- The kind of a character. Letters beyond ASCII make words as well. -/
def Kind.of (c : Char) : Kind :=
  if c.isWhitespace then blank
  else if c.isAlphanum || c = '_' || 127 < c.toNat then word
  else if c = '<' || c = '=' || c = '>' then sign
  else single

/-- Whether two characters that stand together belong together. -/
def together (a b : Char) : Bool :=
  Kind.of a = Kind.of b && Kind.of a ≠ .single

def tokenOfSingle? : List Char → Option Token
  | ['('] => some .opening
  | [')'] => some .closing
  | [','] => some .comma
  | ['?'] => some (.operand none)
  | _ => none

def tokenOfWord (word : List Char) : Token :=
  match Keyword.ofWord? word with
  | some k => .keyword k
  | none => .name (String.ofList word)

/-- The token of a run of characters that belong together, if they make one. -/
def tokenOf? (run : List Char) : Option Token :=
  match run.head?.map Kind.of with
  | some .word => some (tokenOfWord run)
  | some .sign => (Sign.all.find? fun s => s.text.toList = run).map .sign
  | some .single => tokenOfSingle? run
  | _ => none

def isBlankRun (run : List Char) : Bool :=
  run.head?.map Kind.of = some .blank

/-- The tokens of a text, if it is made of tokens. -/
def tokensOf? (text : List Char) : Option (List Token) :=
  ((text.splitBy together).filter fun run => !isBlankRun run).mapM tokenOf?

/-- What a text says as a search condition, if it says anything. -/
def ReadsText (text : String) (e : Expression Test) : Prop :=
  ∃ ts, tokensOf? text.toList = some ts ∧ IsCondition ts e

theorem ReadsText.unique {text : String} {e e' : Expression Test} (h : ReadsText text e)
    (h' : ReadsText text e') : e = e' := by
  obtain ⟨ts, cut, reads⟩ := h
  obtain ⟨ts', cut', reads'⟩ := h'
  cases cut.symm.trans cut'
  exact reads.unique reads'

/-- Whether a word is a name wherever it stands: letters, digits and underscores, and no keyword. -/
def IsName (word : String) : Prop :=
  word.toList ≠ [] ∧ (∀ c ∈ word.toList, Kind.of c = .word) ∧ Keyword.ofWord? word.toList = none

instance (word : String) : Decidable (IsName word) :=
  decidable_of_iff (word.toList ≠ [] ∧ word.toList.all (Kind.of · = .word) = true ∧
    Keyword.ofWord? word.toList = none) (by simp [IsName])

example : tokensOf? "(age>= ? or a_1 is null)".toList = some [.opening, .name "age",
    .sign .atLeast, .operand none, .keyword .or, .name "a_1", .keyword .is, .keyword .null,
    .closing] := by
  rfl

/-! ## Setting tokens as text -/

/-- Tokens set as text: with a blank between them, except inside of parentheses, before a comma and
around the sign between two numbers. -/
inductive Spells : List Token → String → Prop where
  | token (t : Token) : Spells [t] t.text
  | close (first second : String) (s : Sign) :
    Spells [.name first, .sign s, .name second] (first ++ s.text ++ second)
  | spaced {ts us : List Token} {a b : String} (first : Spells ts a) (second : Spells us b) :
    Spells (ts ++ us) (a ++ " " ++ b)
  | listed {ts us : List Token} {a b : String} (first : Spells ts a) (second : Spells us b) :
    Spells (ts ++ .comma :: us) (a ++ ", " ++ b)
  | enclosed {ts : List Token} {a : String} (inner : Spells ts a) :
    Spells (.opening :: (ts ++ [.closing])) ("(" ++ a ++ ")")

/-- Whether a token is found again where it is spelled: its name is plain, and it is not bound. -/
def Token.IsPlain : Token → Prop
  | name text => IsName text
  | operand v => v = none
  | _ => True

/-- A text that is made of known tokens and begins and ends with one. -/
structure IsCut (text : List Char) (ts : List Token) : Prop where
  ne_nil : text ≠ []
  first : ∀ c ∈ text.head?, Kind.of c ≠ .blank
  last : ∀ c ∈ text.getLast?, Kind.of c ≠ .blank
  tokens : tokensOf? text = some ts

theorem tokensOf?_append {text text' : List Char} {ts ts' : List Token}
    (h : tokensOf? text = some ts) (h' : tokensOf? text' = some ts')
    (apart : ∀ a ∈ text.getLast?, ∀ b ∈ text'.head?, together a b = false) :
    tokensOf? (text ++ text') = some (ts ++ ts') := by
  unfold tokensOf? at *
  rw [List.splitBy_append apart, List.filter_append, List.mapM_append, h, h']
  rfl

theorem together_eq_false_of_ne {a b : Char} (h : Kind.of a ≠ Kind.of b) :
    together a b = false := by
  simp [together, h]

/-- A character that stands alone goes with none of its neighbours. -/
theorem together_eq_false_of_single {a b : Char} (h : Kind.of a = .single ∨ Kind.of b = .single) :
    together a b = false := by
  by_cases same : Kind.of a = Kind.of b
  · simp_all [together]
  · exact together_eq_false_of_ne same

namespace IsCut

variable {text text' : List Char} {ts ts' : List Token}

/-- Two texts that are apart where they meet. -/
theorem append (h : IsCut text ts) (h' : IsCut text' ts')
    (apart : ∀ a ∈ text.getLast?, ∀ b ∈ text'.head?, together a b = false) :
    IsCut (text ++ text') (ts ++ ts') where
  ne_nil := List.append_ne_nil_of_left_ne_nil h.ne_nil text'
  first := by rw [List.head?_append_of_ne_nil text h.ne_nil]; exact h.first
  last := by rw [List.getLast?_append_of_ne_nil text h'.ne_nil]; exact h'.last
  tokens := tokensOf?_append h.tokens h'.tokens apart

theorem spaced (h : IsCut text ts) (h' : IsCut text' ts') :
    IsCut (text ++ ' ' :: text') (ts ++ ts') where
  ne_nil := List.append_ne_nil_of_left_ne_nil h.ne_nil _
  first := by rw [List.head?_append_of_ne_nil text h.ne_nil]; exact h.first
  last := by
    rw [List.getLast?_append_of_ne_nil text (List.cons_ne_nil ' ' text'),
      ← List.singleton_append, List.getLast?_append_of_ne_nil [' '] h'.ne_nil]
    exact h'.last
  tokens := by
    have blank : tokensOf? [' '] = some [] := rfl
    have tail : tokensOf? ([' '] ++ text') = some ([] ++ ts') := by
      refine tokensOf?_append blank h'.tokens fun a ha b hb => ?_
      cases ha
      exact together_eq_false_of_ne (Ne.symm (h'.first b hb))
    refine tokensOf?_append h.tokens tail fun a ha b hb => ?_
    cases hb
    exact together_eq_false_of_ne (h.last a ha)

end IsCut

/-- A run of characters of one kind that makes a token. -/
theorem isCut_run {k : Kind} {run : List Char} {t : Token} (some : run ≠ [])
    (kind : ∀ c ∈ run, Kind.of c = k) (visible : k ≠ .blank)
    (whole : run.IsChain fun a b => together a b) (made : tokenOf? run = Option.some t) :
    IsCut run [t] where
  ne_nil := some
  first c hc := by rw [kind c (List.mem_of_mem_head? hc)]; exact visible
  last c hc := by rw [kind c (List.mem_of_mem_getLast? hc)]; exact visible
  tokens := by
    have kept : isBlankRun run = false := by
      cases hhead : run.head? with
      | none => exact absurd (List.head?_eq_none_iff.1 hhead) some
      | some c => simp [isBlankRun, hhead, kind c (List.mem_of_mem_head? hhead), visible]
    rw [tokensOf?, List.splitBy_of_isChain some whole]
    simp [kept, made]

/-- Characters of one kind that do not stand alone belong together. -/
theorem isChain_together {k : Kind} {run : List Char} (kind : ∀ c ∈ run, Kind.of c = k)
    (several : k ≠ .single) : run.IsChain fun a b => together a b := by
  apply List.Pairwise.isChain
  rw [List.pairwise_iff_forall_sublist]
  intro a b pair
  have ha := kind a (pair.subset (by simp))
  have hb := kind b (pair.subset (by simp))
  simp [together, ha, hb, several]

theorem isCut_single {c : Char} {t : Token} (single : Kind.of c = .single)
    (made : tokenOfSingle? [c] = some t) : IsCut [c] [t] :=
  isCut_run (List.cons_ne_nil c []) (by simpa using single) (by decide) (List.isChain_singleton c)
    (by simp [tokenOf?, single, made])

theorem isCut_name {word : String} (h : IsName word) : IsCut word.toList [.name word] := by
  obtain ⟨some, letters, notKeyword⟩ := h
  refine isCut_run some letters (by decide) (isChain_together letters (by decide)) ?_
  cases hhead : word.toList.head? with
  | none => exact absurd (List.head?_eq_none_iff.1 hhead) some
  | some c => simp [tokenOf?, hhead, letters c (List.mem_of_mem_head? hhead), tokenOfWord, notKeyword]

theorem Keyword.kind_of_mem_text {k : Keyword} {c : Char} (h : c ∈ k.text.toList) :
    Kind.of c = .word := by
  have letters : k.text.toList.all (Kind.of · = .word) = true := by cases k <;> decide
  simpa using List.all_eq_true.1 letters c h

theorem isCut_keyword (k : Keyword) : IsCut k.text.toList [.keyword k] := by
  have letters : ∀ c ∈ k.text.toList, Kind.of c = .word := fun _ hc => Keyword.kind_of_mem_text hc
  refine isCut_run ?_ letters (by decide) (isChain_together letters (by decide)) ?_
  · cases k <;> decide
  · cases k <;> rfl

theorem Sign.kind_of_mem_text {s : Sign} {c : Char} (h : c ∈ s.text.toList) :
    Kind.of c = .sign := by
  have signs : s.text.toList.all (Kind.of · = .sign) = true := by cases s <;> decide
  simpa using List.all_eq_true.1 signs c h

theorem isCut_sign (s : Sign) : IsCut s.text.toList [.sign s] := by
  have signs : ∀ c ∈ s.text.toList, Kind.of c = .sign := fun _ hc => Sign.kind_of_mem_text hc
  refine isCut_run ?_ signs (by decide) (isChain_together signs (by decide)) ?_
  · cases s <;> decide
  · cases s <;> rfl

/-- A plain token is found again where it is spelled. -/
theorem isCut_token {t : Token} (h : t.IsPlain) : IsCut t.text.toList [t] := by
  cases t with
  | name text => exact isCut_name h
  | keyword k => exact isCut_keyword k
  | sign s => exact isCut_sign s
  | operand v =>
    cases h
    exact isCut_single rfl rfl
  | opening | closing | comma => exact isCut_single rfl rfl

/-- The sign between two names needs no blanks around it. -/
theorem isCut_close {first second : String} (s : Sign) (h : IsName first) (h' : IsName second) :
    IsCut ((first ++ s.text ++ second).toList) [.name first, .sign s, .name second] := by
  have left := (isCut_name h).append (isCut_sign s) fun a ha b hb => by
    have before := h.2.1 a (List.mem_of_mem_getLast? ha)
    have sign := Sign.kind_of_mem_text (List.mem_of_mem_head? hb)
    exact together_eq_false_of_ne (by rw [before, sign]; decide)
  rw [String.toList_append, String.toList_append]
  refine left.append (isCut_name h') fun a ha b hb => ?_
  rw [List.getLast?_append_of_ne_nil _ (isCut_sign s).ne_nil] at ha
  have sign := Sign.kind_of_mem_text (List.mem_of_mem_getLast? ha)
  have after := h'.2.1 b (List.mem_of_mem_head? hb)
  exact together_eq_false_of_ne (by rw [sign, after]; decide)

/-- Plain tokens are found again in the text that spells them. -/
theorem Spells.isCut {ts : List Token} {text : String} (h : Spells ts text)
    (plain : ∀ t ∈ ts, t.IsPlain) : IsCut text.toList ts := by
  induction h with
  | token t => exact isCut_token (plain t (by simp))
  | close first second s =>
    exact isCut_close s (plain (.name first) (by simp)) (plain (.name second) (by simp))
  | @spaced ts us a b first second ih ih' =>
    rw [List.forall_mem_append] at plain
    have cut := (ih plain.1).spaced (ih' plain.2)
    simpa using cut
  | @listed ts us a b first second ih ih' =>
    rw [List.forall_mem_append, List.forall_mem_cons] at plain
    have comma : IsCut [','] [.comma] := isCut_single rfl rfl
    have left := (ih plain.1).append comma fun a _ b hb => together_eq_false_of_single (by
      cases hb
      exact .inr rfl)
    have cut := left.spaced (ih' plain.2.2)
    simpa using cut
  | @enclosed ts a inner ih =>
    rw [List.forall_mem_cons, List.forall_mem_append] at plain
    have closing : IsCut [')'] [.closing] := isCut_single rfl rfl
    have opening : IsCut ['('] [.opening] := isCut_single rfl rfl
    have right := (ih plain.2.1).append closing fun a _ b hb => together_eq_false_of_single (by
      cases hb
      exact .inr rfl)
    have cut := opening.append right fun a ha b _ => together_eq_false_of_single (by
      cases ha
      exact .inl rfl)
    simpa using cut

end SchemaFilter.Sql
