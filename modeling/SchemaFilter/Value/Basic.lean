import SchemaFilter.Decimal.Shortest

/-!
# Values

Records, operands and query documents are JSON values. An object keeps its members sorted by key
with no key twice, so two objects are equal when their member lists are.

A number is either an exact integer or a double. The two kinds are told apart inside arrays and
objects (`Value.same`), while two numbers compared directly are equal when the doubles nearest to
them are (`Value.equal`).
-/

namespace SchemaFilter

/-- A number: an exact integer from `-2 ^ 63` to `2 ^ 64 - 1`, or a double. -/
inductive Number where
  | integer (n : Int)
  | double (d : Double)
deriving DecidableEq, Repr, Inhabited

/-- A JSON value. The members of an object are sorted by key. -/
inductive Value where
  | null
  | bool (b : Bool)
  | number (n : Number)
  | string (s : String)
  | array (items : List Value)
  | object (members : List (String × Value))
deriving Repr, Inhabited

namespace Number

def toDouble : Number → Double
  | integer n => Double.ofInt n
  | double d => d

def text : Number → String
  | integer n => toString n
  | double d => d.text

/-- Equality of numbers of one kind. -/
def same : Number → Number → Bool
  | integer m, integer n => m == n
  | double c, double d => c.same d
  | _, _ => false

end Number

namespace Value

mutual

/-- Whether two values are built alike. Unlike `same` this tells the two zeros of doubles apart. -/
def decEq : (v w : Value) → Decidable (v = w)
  | null, null => isTrue rfl
  | bool a, bool b => decidable_of_iff (a = b) (by simp)
  | number a, number b => decidable_of_iff (a = b) (by simp)
  | string a, string b => decidable_of_iff (a = b) (by simp)
  | array a, array b =>
    have := decEqItems a b
    decidable_of_iff (a = b) (by simp)
  | object a, object b =>
    have := decEqMembers a b
    decidable_of_iff (a = b) (by simp)
  | null, bool _ | null, number _ | null, string _ | null, array _ | null, object _
  | bool _, null | bool _, number _ | bool _, string _ | bool _, array _ | bool _, object _
  | number _, null | number _, bool _ | number _, string _ | number _, array _ | number _, object _
  | string _, null | string _, bool _ | string _, number _ | string _, array _ | string _, object _
  | array _, null | array _, bool _ | array _, number _ | array _, string _ | array _, object _
  | object _, null | object _, bool _ | object _, number _ | object _, string _
  | object _, array _ => isFalse nofun

def decEqItems : (vs ws : List Value) → Decidable (vs = ws)
  | [], [] => isTrue rfl
  | v :: vs, w :: ws =>
    have := decEq v w
    have := decEqItems vs ws
    decidable_of_iff (v = w ∧ vs = ws) (by simp)
  | [], _ :: _ | _ :: _, [] => isFalse nofun

def decEqMembers : (ms ns : List (String × Value)) → Decidable (ms = ns)
  | [], [] => isTrue rfl
  | (k, v) :: ms, (l, w) :: ns =>
    have := decEq v w
    have := decEqMembers ms ns
    decidable_of_iff (k = l ∧ v = w ∧ ms = ns) (by simp [and_assoc])
  | [], _ :: _ | _ :: _, [] => isFalse nofun

end

instance : DecidableEq Value := decEq

mutual

/-- Equality of values, kind by kind. -/
def same : Value → Value → Bool
  | null, null => true
  | bool a, bool b => a == b
  | number a, number b => a.same b
  | string a, string b => a == b
  | array a, array b => sameItems a b
  | object a, object b => sameMembers a b
  | _, _ => false

def sameItems : List Value → List Value → Bool
  | [], [] => true
  | a :: as, b :: bs => same a b && sameItems as bs
  | _, _ => false

def sameMembers : List (String × Value) → List (String × Value) → Bool
  | [], [] => true
  | (k, a) :: as, (l, b) :: bs => k == l && same a b && sameMembers as bs
  | _, _ => false

end

/-- Equality of a field value with an operand: two numbers are equal when their doubles are, any
other two values when they are the same. -/
def equal : Value → Value → Bool
  | number a, number b => a.toDouble.same b.toDouble
  | a, b => same a b

mutual

@[simp] theorem same_self : (v : Value) → v.same v = true
  | .null => rfl
  | .bool _ => by simp [same]
  | .number (.integer _) => by simp [same, Number.same]
  | .number (.double _) => by simp [same, Number.same]
  | .string _ => by simp [same]
  | .array items => by simpa [same] using sameItems_self items
  | .object members => by simpa [same] using sameMembers_self members

@[simp] theorem sameItems_self : (vs : List Value) → sameItems vs vs = true
  | [] => rfl
  | v :: vs => by simp [sameItems, same_self v, sameItems_self vs]

@[simp] theorem sameMembers_self : (ms : List (String × Value)) → sameMembers ms ms = true
  | [] => rfl
  | (_, v) :: ms => by simp [sameMembers, same_self v, sameMembers_self ms]

end

@[simp] theorem equal_self (v : Value) : v.equal v = true := by
  cases v <;> simp [equal]

def isNull : Value → Bool
  | null => true
  | _ => false

theorem eq_null_of_isNull {v : Value} (h : v.isNull = true) : v = null := by
  cases v <;> first | rfl | cases h

def string? : Value → Option String
  | string s => some s
  | _ => none

def items? : Value → Option (List Value)
  | array items => some items
  | _ => none

def members? : Value → Option (List (String × Value))
  | object members => some members
  | _ => none

/-- The text of a scalar operand, as patterns use it. -/
def scalarText? : Value → Option String
  | string s => some s
  | number n => some n.text
  | bool b => some (if b then "true" else "false")
  | _ => none

def ofNat (n : Nat) : Value :=
  number (.integer n)

end Value

/-- Members of an object, sorted by key. -/
abbrev Members := List (String × Value)

namespace Members

/-- The value of a key. -/
def get? (members : Members) (key : String) : Option Value :=
  List.lookup key members

def has (members : Members) (key : String) : Bool :=
  (members.get? key).isSome

/-- Sets the value of a key, keeping the order of keys. -/
def insert (key : String) (value : Value) : Members → Members
  | [] => [(key, value)]
  | (k, v) :: rest =>
    if key < k then (key, value) :: (k, v) :: rest
    else if key = k then (key, value) :: rest
    else (k, v) :: insert key value rest

@[simp] theorem get?_nil (key : String) : get? [] key = none := rfl

@[simp] theorem get?_cons (key k : String) (v : Value) (m : Members) :
    get? ((k, v) :: m) key = if key = k then some v else get? m key := by
  rw [get?, List.lookup_cons]
  by_cases h : key = k
  · simp [h]
  · simp [h, beq_eq_false_iff_ne.2 h, get?]

/-- The keys ascend, and so no key occurs twice. -/
def Sorted (m : Members) : Prop :=
  m.Pairwise fun a b => a.1 < b.1

theorem mem_of_mem_insert {key : String} {v : Value} {m : Members} {e : String × Value}
    (h : e ∈ m.insert key v) : e = (key, v) ∨ e ∈ m := by
  induction m with
  | nil => simp_all [insert]
  | cons f m ih =>
    simp only [insert] at h
    grind

theorem Sorted.insert {m : Members} (h : m.Sorted) (key : String) (v : Value) :
    (m.insert key v).Sorted := by
  induction m with
  | nil => simp [Members.insert, Sorted]
  | cons f m ih =>
    obtain ⟨k, w⟩ := f
    obtain ⟨first, rest⟩ := List.pairwise_cons.1 h
    simp only [Members.insert]
    split
    · next less =>
      refine List.pairwise_cons.2 ⟨fun e he => ?_, h⟩
      rcases List.mem_cons.1 he with rfl | he
      · exact less
      · exact String.lt_trans less (first e he)
    · split
      · next same => subst same; exact List.pairwise_cons.2 ⟨first, rest⟩
      · next more other =>
        refine List.pairwise_cons.2 ⟨fun e he => ?_, ih rest⟩
        rcases mem_of_mem_insert he with rfl | he
        · exact Std.lt_of_le_of_ne (String.not_lt.1 more) (Ne.symm other)
        · exact first e he

/-- Members from pairs in any order; of two values for one key the later one stays. -/
def ofList (pairs : List (String × Value)) : Members :=
  pairs.foldl (fun members (key, value) => members.insert key value) []

end Members

/-- The value of a record's field. A field that is missing reads as null, and so does every field
of a record that is not an object. -/
def Value.field (record : Value) (name : String) : Value :=
  match record with
  | .object members => (members.lookup name).getD .null
  | _ => .null

def Value.ofPairs (pairs : List (String × Value)) : Value :=
  .object (Members.ofList pairs)

end SchemaFilter
