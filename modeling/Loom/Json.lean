import Mathlib.Data.Rat.Defs

/-!
# JSON values as Python sees them

Reports, error payloads, patch operations and outcomes are JSON values that the Observer
handles as Python objects.  A dictionary is an association list in which the first entry of
a key counts, so that the literal `{**base, "key": value}` is the entries of the literal in
front of `base`.
-/

namespace Loom

/-- A decoded JSON value.  Finite floats are kept exactly, as rationals. -/
inductive Json where
  | null
  | bool (flag : Bool)
  | int (number : Int)
  | float (number : ℚ)
  | str (text : String)
  | arr (items : List Json)
  | obj (entries : List (String × Json))
  deriving Repr, Inhabited

/-- A Python dictionary with string keys. -/
abbrev Dict := List (String × Json)

namespace Json

mutual

def decEq : (left right : Json) → Decidable (left = right)
  | .null, .null => isTrue rfl
  | .bool left, .bool right => decidable_of_iff (left = right) (by simp)
  | .int left, .int right => decidable_of_iff (left = right) (by simp)
  | .float left, .float right => decidable_of_iff (left = right) (by simp)
  | .str left, .str right => decidable_of_iff (left = right) (by simp)
  | .arr left, .arr right =>
      have := decEqItems left right
      decidable_of_iff (left = right) (by simp)
  | .obj left, .obj right =>
      have := decEqEntries left right
      decidable_of_iff (left = right) (by simp)
  | .null, .bool _ | .null, .int _ | .null, .float _ | .null, .str _ | .null, .arr _
  | .null, .obj _ => isFalse (by simp)
  | .bool _, .null | .bool _, .int _ | .bool _, .float _ | .bool _, .str _ | .bool _, .arr _
  | .bool _, .obj _ => isFalse (by simp)
  | .int _, .null | .int _, .bool _ | .int _, .float _ | .int _, .str _ | .int _, .arr _
  | .int _, .obj _ => isFalse (by simp)
  | .float _, .null | .float _, .bool _ | .float _, .int _ | .float _, .str _
  | .float _, .arr _ | .float _, .obj _ => isFalse (by simp)
  | .str _, .null | .str _, .bool _ | .str _, .int _ | .str _, .float _ | .str _, .arr _
  | .str _, .obj _ => isFalse (by simp)
  | .arr _, .null | .arr _, .bool _ | .arr _, .int _ | .arr _, .float _ | .arr _, .str _
  | .arr _, .obj _ => isFalse (by simp)
  | .obj _, .null | .obj _, .bool _ | .obj _, .int _ | .obj _, .float _ | .obj _, .str _
  | .obj _, .arr _ => isFalse (by simp)

def decEqItems : (left right : List Json) → Decidable (left = right)
  | [], [] => isTrue rfl
  | [], _ :: _ | _ :: _, [] => isFalse (by simp)
  | left :: lefts, right :: rights =>
      have := decEq left right
      have := decEqItems lefts rights
      decidable_of_iff (left = right ∧ lefts = rights) (by simp)

def decEqEntries : (left right : List (String × Json)) → Decidable (left = right)
  | [], [] => isTrue rfl
  | [], _ :: _ | _ :: _, [] => isFalse (by simp)
  | (leftKey, left) :: lefts, (rightKey, right) :: rights =>
      have := decEq left right
      have := decEqEntries lefts rights
      decidable_of_iff ((leftKey = rightKey ∧ left = right) ∧ lefts = rights) (by simp)

end

instance : DecidableEq Json := decEq

/-- Python truth of a JSON value. -/
def truthy : Json → Bool
  | .null => false
  | .bool flag => flag
  | .int number => number ≠ 0
  | .float number => number ≠ 0
  | .str text => text ≠ ""
  | .arr items => !items.isEmpty
  | .obj entries => !entries.isEmpty

/-- `left or right`. -/
def orElse (left right : Json) : Json := if left.truthy then left else right

/-- Whether a value can be looked up in a `set` or used as a key: lists and dictionaries raise. -/
def hashable : Json → Bool
  | .arr _ | .obj _ => false
  | _ => true

/-- The numeric value of a JSON number, booleans counting as `0` and `1`. -/
def number? : Json → Option ℚ
  | .bool flag => some (if flag then 1 else 0)
  | .int number => some number
  | .float number => some number
  | _ => none

mutual

/-- Python's `left == right`: numbers by value, dictionaries without regard to order. -/
def pyEq : (left right : Json) → Bool
  | .arr lefts, .arr rights => pyEqItems lefts rights
  | .obj lefts, .obj rights => lefts.length = rights.length && pyEqEntries lefts rights
  | left, right =>
      match left.number?, right.number? with
      | some leftNumber, some rightNumber => leftNumber = rightNumber
      | _, _ => left = right

def pyEqItems : (left right : List Json) → Bool
  | [], [] => true
  | left :: lefts, right :: rights => pyEq left right && pyEqItems lefts rights
  | _, _ => false

def pyEqEntries : (left right : List (String × Json)) → Bool
  | [], _ => true
  | (key, left) :: lefts, rights =>
      (match rights.lookup key with
        | some right => pyEq left right
        | none => false) && pyEqEntries lefts rights

end

/-- The decimal digits of Python's `int(text)`, single underscores allowed between digits. -/
def digitsValue? : List Char → Option Nat
  | [] => none
  | chars =>
      (chars.foldl
        (fun (state : Option (Nat × Bool)) char =>
          match state with
          | none => none
          | some (value, afterDigit) =>
              if char.isDigit then some (value * 10 + (char.toNat - '0'.toNat), true)
              else if char = '_' ∧ afterDigit then some (value, false)
              else none)
        (some (0, false))).bind fun (value, afterDigit) =>
          if afterDigit then some value else none

/-- Python's `int(text)` on a string: surrounding blanks, an optional sign and digits. -/
def intOfText? (text : String) : Option Int :=
  let blank := fun char : Char => char.isWhitespace
  let chars := ((text.toList.dropWhile blank).reverse.dropWhile blank).reverse
  match chars with
  | '-' :: rest => (digitsValue? rest).map fun value => -(value : Int)
  | '+' :: rest => (digitsValue? rest).map fun value => (value : Int)
  | rest => (digitsValue? rest).map fun value => (value : Int)

/-- Python's `int(value)`; `none` where it raises `TypeError` or `ValueError`. -/
def toInt? : Json → Option Int
  | .bool flag => some (if flag then 1 else 0)
  | .int number => some number
  | .float number => some (number.num.tdiv number.den)
  | .str text => intOfText? text
  | _ => none

/-- The value of an optional string, `None` for none. -/
def ofOption : Option String → Json
  | some text => .str text
  | none => .null

end Json

namespace Dict

/-- `entries.get(key)`. -/
def get (entries : Dict) (key : String) : Json := (entries.lookup key).getD .null

/-- `key in entries`. -/
def has (entries : Dict) (key : String) : Bool := (entries.lookup key).isSome

/-- `entries[key] = value`: the new entry hides the old one. -/
def set (entries : Dict) (key : String) (value : Json) : Dict := (key, value) :: entries

@[simp]
theorem get_cons (entry : String × Json) (entries : Dict) (key : String) :
    get (entry :: entries) key = if key = entry.1 then entry.2 else get entries key := by
  obtain ⟨name, value⟩ := entry
  by_cases same : key = name
  · simp [get, same]
  · have differs : (key == name) = false := by simpa using same
    simp [get, List.lookup_cons, same, differs]

@[simp]
theorem get_nil (key : String) : get [] key = .null := rfl

end Dict

end Loom
