import BankingService.Library.Json
import BankingService.Python
import Mathlib.Data.Rat.Defs

/-! JSON values as Python sees them. -/
namespace Python

/-- `bool(value)`. -/
def truthy : Json → Bool
  | .null => false
  | .bool b => b
  | .int n => n ≠ 0
  | .real x => (x.literal.takeWhile fun c => c ≠ 'e' ∧ c ≠ 'E').any fun c => c.isDigit ∧ c ≠ '0'
  | .nonFinite _ => true
  | .str s => s ≠ ""
  | .arr items => !items.isEmpty
  | .obj fields => !fields.isEmpty

def hashable : Json → Bool
  | .arr _ | .obj _ => false
  | _ => true

/-- `d.get(key)` of a dictionary. -/
def lookup (d : List (String × Json)) (key : String) : Option Json := Json.get key (.obj d)

section
variable (float : Json.Real → ℚ)

def numeric : Json → Option ℚ
  | .bool b => some (if b then 1 else 0)
  | .int n => some n
  | .real x => some (float x)
  | _ => none

mutual

/-- `==`. Numbers and truth values are compared as numbers, `float` being the number that a literal
is read as; dictionaries are compared without their order. -/
def equal : Json → Json → Bool
  | .null, .null => true
  | .str s, .str t => s = t
  | .nonFinite x, .nonFinite y => x ≠ .nan ∧ x = y
  | .arr items, .arr items' => equalItems items items'
  | .obj fields, .obj fields' => fields.length = fields'.length ∧ equalFields fields fields'
  | .bool b, y => numeric float y = some (if b then 1 else 0)
  | .int n, y => numeric float y = some (n : ℚ)
  | .real x, y => numeric float y = some (float x)
  | _, _ => false

def equalItems : List Json → List Json → Bool
  | [], [] => true
  | x :: xs, y :: ys => equal x y && equalItems xs ys
  | _, _ => false

/-- Every field is one of the other dictionary too. -/
def equalFields : List (String × Json) → List (String × Json) → Bool
  | [], _ => true
  | (key, x) :: fields, fields' =>
    (match lookup fields' key with
      | some y => equal x y
      | none => false) && equalFields fields fields'

end

end

end Python
