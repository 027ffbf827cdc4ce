import SignedPayments.Number.Binary64

/-!
# SignedPayments.Json.Value

JSON values. The members of an object are a list in ascending order of keys, with
no key twice; `Object.insert` keeps it so. A number is an integer or a finite
floating point number, and which of the two it is belongs to it: `1` and `1.0`
are different values.
-/

namespace SignedPayments

namespace Json

/-- A number. -/
inductive Number
  | integer (n : Int)
  | float (x : Binary64) (finite : x.isFinite = true)
deriving DecidableEq

/-- A value. -/
inductive Value
  | null
  | bool (b : Bool)
  | number (n : Number)
  | string (s : String)
  | array (items : List Value)
  | object (members : List (String × Value))

/-! ### Equality of what values stand for

Two forms of zero stand for the same number. -/

/-- Whether numbers of the same kind stand for the same. -/
def Number.agrees : Number → Number → Bool
  | .integer m, .integer n => m = n
  | .float x _, .float y _ => x.agrees y
  | _, _ => false

mutual

/-- Whether values stand for the same. -/
def Value.agrees : Value → Value → Bool
  | .null, .null => true
  | .bool a, .bool b => a = b
  | .number a, .number b => a.agrees b
  | .string a, .string b => a = b
  | .array a, .array b => itemsAgree a b
  | .object a, .object b => membersAgree a b
  | _, _ => false

/-- Whether lists hold values that stand for the same. -/
def itemsAgree : List Value → List Value → Bool
  | [], [] => true
  | a :: as, b :: bs => a.agrees b && itemsAgree as bs
  | _, _ => false

/-- Whether objects have the same keys, with values that stand for the same. -/
def membersAgree : List (String × Value) → List (String × Value) → Bool
  | [], [] => true
  | (k, a) :: as, (l, b) :: bs => k = l && a.agrees b && membersAgree as bs
  | _, _ => false

end

/-! ### Objects -/

/-- The members of an object, in ascending order of keys. -/
abbrev Object := List (String × Value)

/-- Sets a member, in place of an earlier one of the same key. -/
def Object.insert (key : String) (value : Value) : Object → Object
  | [] => [(key, value)]
  | (k, v) :: rest =>
    if key < k then (key, value) :: (k, v) :: rest
    else if key = k then (key, value) :: rest
    else (k, v) :: Object.insert key value rest

end Json

end SignedPayments
