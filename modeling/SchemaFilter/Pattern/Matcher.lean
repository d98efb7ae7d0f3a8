import SchemaFilter.Pattern.Basic

/-!
# Matching

A set of places in a text is a number: bit `i` says whether place `i`, before the character with
that index, belongs to it. `Pattern.advance` takes the places where a pattern may begin to all
places where it may then end, for the whole set at once, so the time does not depend on the number
of ways to match.

A pattern matches a text if it spans some stretch of it.
-/

namespace SchemaFilter.Pattern

/-- The set of the indices at which a test holds. -/
def mask (test : α → Bool) : List α → Nat
  | [] => 0
  | a :: as => (if test a then 1 else 0) + 2 * mask test as

@[simp] theorem testBit_mask (test : α → Bool) (as : List α) (i : Nat) :
    (mask test as).testBit i = (as[i]?).any test := by
  induction as generalizing i with
  | nil => simp [mask]
  | cons a as ih =>
    cases i with
    | zero => cases h : test a <;> simp [mask, h, Nat.testBit_zero, Nat.add_mul_mod_self_left]
    | succ i =>
      have half : ((if test a then 1 else 0) + 2 * mask test as) / 2 = mask test as := by
        split <;> omega
      simp [mask, Nat.testBit_succ, half, ih]

/-- The neighbours of every place in a text, given the character before it. -/
def neighbours (before : Option Char) : List Char → List (Option Char × Option Char)
  | [] => [(before, none)]
  | c :: cs => (before, some c) :: neighbours (some c) cs

/-- Applies a step a fixed number of times, or until nothing changes any more. -/
def iterate (step : Nat → Nat) : (times : Nat) → Nat → Nat
  | 0, places => places
  | times + 1, places =>
    let next := step places
    if next = places then places else iterate step times next

/-- Applies a step up to a number of times and collects all places on the way. The step is applied
to new places only. -/
def collect (step : Nat → Nat) : (times : Nat) → (seen fresh : Nat) → Nat
  | 0, seen, _ => seen
  | times + 1, seen, fresh =>
    let reached := step fresh
    let all := seen ||| reached
    if all = seen then seen else collect step times all (all ^^^ seen)

/-- The places where a pattern may end that begins at one of the given places. -/
def advance (text : List Char) : Pattern → Nat → Nat
  | empty, places => places
  | char c, places => 2 * (places &&& mask c.contains text)
  | assertion a, places =>
    places &&& mask (fun (before, after) => a.holds before after) (neighbours none text)
  | sequence p q, places => advance text q (advance text p places)
  | choice p q, places => advance text p places ||| advance text q places
  | repetition p least most, places =>
    let start := iterate (advance text p) least places
    let rounds :=
      match most with
      | some most => most - least
      | none => text.length + 1
    collect (advance text p) rounds start start

/-- Whether a pattern spans some stretch of a text. -/
def matches? (p : Pattern) (text : String) : Bool :=
  let cs := text.toList
  p.advance cs (Nat.pow 2 (cs.length + 1) - 1) != 0

end SchemaFilter.Pattern
