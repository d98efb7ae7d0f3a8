import SchemaFilter.Calendar

/-!
# The order of values

Two numbers are ordered by the doubles nearest to them. Two texts are ordered as points in time if
both name one, and by code points otherwise. For two truth values, false comes first. Values of
different kinds are not ordered, and neither are nulls, arrays and objects.
-/

namespace SchemaFilter.Value

def orderInt (a b : Int) : Ordering :=
  if a < b then .lt else if a = b then .eq else .gt

def orderTime (a b : Timestamp) : Ordering :=
  if a.before b then .lt else if a = b then .eq else .gt

/-- The order of two texts by code points. -/
def orderText (a b : String) : Ordering :=
  if a < b then .lt else if a = b then .eq else .gt

def orderBool : Bool → Bool → Ordering
  | false, true => .lt
  | true, false => .gt
  | _, _ => .eq

/-- The order of two values of one kind. -/
def order? : Value → Value → Option Ordering
  | number a, number b => some (orderInt a.toDouble.toInt b.toDouble.toInt)
  | string a, string b =>
    match Calendar.parse? a, Calendar.parse? b with
    | some s, some t => some (orderTime s t)
    | _, _ => some (orderText a b)
  | bool a, bool b => some (orderBool a b)
  | _, _ => none

end SchemaFilter.Value
