import Loom.Contracts.Types
import Loom.Json

/-!
# JSON text

`json.dumps` and `json.loads` of Python's standard library with their default arguments, on texts
whose characters and numbers Lean has: lone surrogates, numbers that are not finite and encodings
other than UTF-8 are left to a parameter.  The text of a float is a parameter as well.
-/

namespace Loom

namespace JsonText

/-! ### Failures -/

/-- Why a text is not read. -/
inductive Failure where
  /-- `json.JSONDecodeError`. -/
  | malformed
  | raises (error : Exc)
  /-- Python reads something that is left to a parameter. -/
  | foreign
  deriving Repr, DecidableEq

/-- Why `json.loads` raises. -/
inductive LoadError where
  /-- `json.JSONDecodeError`. -/
  | malformed
  | raises (error : Exc)
  deriving Repr, DecidableEq

/-- `UnicodeDecodeError`. -/
def undecodable : Failure := .raises (Exc.valueError "'utf-8' codec can't decode bytes")

/-- The error of an integer with too many digits. -/
def tooManyDigits : Failure :=
  .raises (Exc.valueError "Exceeds the limit (4300 digits) for integer string conversion")

/-- `RecursionError`. -/
def tooDeep : Failure := .raises ⟨.other, "maximum recursion depth exceeded"⟩

/-! ### Bytes -/

/-- The byte goes on with a character. -/
def continues (byte : UInt8) : Bool := 0x80 ≤ byte && byte ≤ 0xBF

/-- The character of the payload bits of an encoding. -/
def charOf (bits : List Nat) : Char :=
  Char.ofNat (bits.foldl (fun value part => value * 64 + part) 0)

/-- The payload bits of a byte that goes on with a character. -/
def payload (byte : UInt8) : Nat := byte.toNat - 0x80

/-- `bytes.decode("utf-8", "surrogatepass")`. -/
def decode : List UInt8 → Except Failure (List Char)
  | [] => .ok []
  | first :: rest =>
      if first < 0x80 then
        (decode rest).map (Char.ofNat first.toNat :: ·)
      else
        match rest with
        | [] => .error undecodable
        | second :: rest =>
            if 0xC2 ≤ first ∧ first ≤ 0xDF ∧ continues second then
              (decode rest).map (charOf [first.toNat - 0xC0, payload second] :: ·)
            else
              match rest with
              | [] => .error undecodable
              | third :: rest =>
                  if 0xE0 ≤ first ∧ first ≤ 0xEF ∧ continues second ∧ continues third ∧
                      (first = 0xE0 → 0xA0 ≤ second) then
                    if first = 0xED ∧ 0xA0 ≤ second then .error .foreign
                    else
                      (decode rest).map
                        (charOf [first.toNat - 0xE0, payload second, payload third] :: ·)
                  else
                    match rest with
                    | [] => .error undecodable
                    | fourth :: rest =>
                        if 0xF0 ≤ first ∧ first ≤ 0xF4 ∧ continues second ∧ continues third ∧
                            continues fourth ∧ (first = 0xF0 → 0x90 ≤ second) ∧
                            (first = 0xF4 → second ≤ 0x8F) then
                          (decode rest).map
                            (charOf [first.toNat - 0xF0, payload second, payload third,
                              payload fourth] :: ·)
                        else .error undecodable

/-- `json.detect_encoding` finds another encoding than UTF-8, or a byte order mark. -/
def isEncodedOtherwise : List UInt8 → Bool
  | 0xFE :: 0xFF :: _ | 0xFF :: 0xFE :: _ | 0xEF :: 0xBB :: 0xBF :: _ => true
  | first :: second :: _ :: _ :: _ => first = 0 || second = 0
  | [first, second] => first = 0 || second = 0
  | _ => false

/-! ### Numbers -/

/-- The characters of the front that are digits, and the others. -/
def digits (chars : List Char) : List Char × List Char := chars.span Char.isDigit

/-- `-`, or nothing. -/
def minus : List Char → List Char × List Char
  | '-' :: rest => (['-'], rest)
  | chars => ([], chars)

/-- `0`, or digits that do not begin with `0`. -/
def whole : List Char → Option (List Char × List Char)
  | '0' :: rest => some (['0'], rest)
  | chars =>
      match digits chars with
      | ([], _) => none
      | found => some found

/-- A point and digits, or nothing. -/
def fraction : List Char → List Char × List Char
  | '.' :: rest =>
      match digits rest with
      | ([], _) => ([], '.' :: rest)
      | (found, rest) => ('.' :: found, rest)
  | chars => ([], chars)

/-- `+` or `-`, or nothing. -/
def sign : List Char → List Char × List Char
  | '+' :: rest => (['+'], rest)
  | chars => minus chars

/-- `e` or `E`, a sign and digits, or nothing. -/
def exponent : List Char → List Char × List Char
  | [] => ([], [])
  | first :: rest =>
      if first = 'e' ∨ first = 'E' then
        match digits (sign rest).2 with
        | ([], _) => ([], first :: rest)
        | (found, after) => (first :: (sign rest).1 ++ found, after)
      else ([], first :: rest)

/-- The text of a number, and whether it is one of a float. -/
structure Token where
  negative : Bool
  whole : List Char
  others : List Char
  deriving Repr, DecidableEq

def Token.chars (token : Token) : List Char :=
  (if token.negative then ['-'] else []) ++ token.whole ++ token.others

/-- `_match_number`. -/
def number (chars : List Char) : Option (Token × List Char) :=
  let (negative, chars) := minus chars
  (whole chars).map fun (units, rest) =>
    let (part, rest) := fraction rest
    let (power, rest) := exponent rest
    ({ negative := !negative.isEmpty, whole := units, others := part ++ power }, rest)

/-- The numeral of a natural number. -/
def numeral (number : Nat) : List Char := Nat.toDigits 10 number

/-- `repr` of an integer. -/
def intText (number : Int) : List Char :=
  if number < 0 then '-' :: numeral number.natAbs else numeral number.natAbs

/-- `int` of the text of an integer. -/
def intOf (token : Token) : Int :=
  let value : Int := Nat.ofDigitChars 10 token.whole 0
  if token.negative then -value else value

/-- The texts of floats: what `repr` writes and what `float` reads. -/
structure Floats where
  isDouble : ℚ → Prop
  repr : ℚ → Token
  read : Token → Option ℚ
  /-- `float(repr(x)) == x`. -/
  read_repr : ∀ value, isDouble value → read (repr value) = some value
  /-- `repr` writes the number of a float. -/
  shape : ∀ value, isDouble value → (repr value).others ≠ [] ∧
    ∀ rest : List Char, (∀ next ∈ rest.head?, next = ',' ∨ next = ']' ∨ next = '}') →
      number ((repr value).chars ++ rest) = some (repr value, rest)
  /-- The text of a float consists of digits, signs, a point and an `e`. -/
  plain : ∀ value, isDouble value → ∀ char ∈ (repr value).chars, ' ' ≤ char ∧ char ≤ '~'

/-- The number at the front of a text. -/
def numberValue (floats : Floats) (chars : List Char) : Except Failure (Json × List Char) :=
  match number chars with
  | none => .error .malformed
  | some (token, rest) =>
      if token.others = [] then
        if 4300 < token.whole.length then .error tooManyDigits else .ok (.int (intOf token), rest)
      else
        match floats.read token with
        | some value => .ok (.float value, rest)
        | none => .error .foreign

/-! ### Strings -/

/-- A hexadecimal digit. -/
def hexChar (digit : Nat) : Char := Nat.digitChar digit

/-- The value of a hexadecimal digit. -/
def hexValue (char : Char) : Option Nat :=
  if '0' ≤ char ∧ char ≤ '9' then some (char.toNat - '0'.toNat)
  else if 'a' ≤ char ∧ char ≤ 'f' then some (char.toNat - 'a'.toNat + 10)
  else if 'A' ≤ char ∧ char ≤ 'F' then some (char.toNat - 'A'.toNat + 10)
  else none

/-- `\uXXXX`. -/
def unicode (code : Nat) : List Char :=
  ['\\', 'u', hexChar (code / 4096 % 16), hexChar (code / 256 % 16), hexChar (code / 16 % 16),
    hexChar (code % 16)]

/-- A character of a string, in ASCII. -/
def escape (char : Char) : List Char :=
  if char = '"' then ['\\', '"']
  else if char = '\\' then ['\\', '\\']
  else if char = '\n' then ['\\', 'n']
  else if char = '\r' then ['\\', 'r']
  else if char = '\t' then ['\\', 't']
  else if char = '\x0c' then ['\\', 'f']
  else if char = '\x08' then ['\\', 'b']
  else if ' ' ≤ char ∧ char ≤ '~' then [char]
  else if char.toNat < 0x10000 then unicode char.toNat
  else
    unicode (0xD800 + (char.toNat - 0x10000) / 1024) ++
      unicode (0xDC00 + (char.toNat - 0x10000) % 1024)

/-- The character of `\b` and the like. -/
def unescape : Char → Option Char
  | '"' => some '"'
  | '\\' => some '\\'
  | '/' => some '/'
  | 'b' => some '\x08'
  | 'f' => some '\x0c'
  | 'n' => some '\n'
  | 'r' => some '\r'
  | 't' => some '\t'
  | _ => none

/-- The number that four hexadecimal digits write. -/
def hexNumber (first second third fourth : Char) : Option Nat := do
  return (((← hexValue first) * 16 + (← hexValue second)) * 16 + (← hexValue third)) * 16 +
    (← hexValue fourth)

/-- `scanstring`, after the opening quotation mark. -/
def string : List Char → Except Failure (List Char × List Char)
  | [] => .error .malformed
  | '"' :: rest => .ok ([], rest)
  | '\\' :: 'u' :: first :: second :: third :: fourth :: rest =>
      match hexNumber first second third fourth with
      | none => .error .malformed
      | some code =>
          if code < 0xD800 ∨ 0xDFFF < code then
            (string rest).map fun (text, rest) => (Char.ofNat code :: text, rest)
          else
            match rest with
            | '\\' :: 'u' :: first :: second :: third :: fourth :: rest =>
                match hexNumber first second third fourth with
                | some low =>
                    if code ≤ 0xDBFF ∧ 0xDC00 ≤ low ∧ low ≤ 0xDFFF then
                      (string rest).map fun (text, rest) =>
                        (Char.ofNat (0x10000 + (code - 0xD800) * 1024 + (low - 0xDC00)) :: text,
                          rest)
                    else .error .foreign
                | none => .error .malformed
            | _ => .error .foreign
  | '\\' :: 'u' :: _ => .error .malformed
  | '\\' :: next :: rest =>
      match unescape next with
      | some char => (string rest).map fun (text, rest) => (char :: text, rest)
      | none => .error .malformed
  | ['\\'] => .error .malformed
  | char :: rest =>
      if char < ' ' then .error .malformed
      else (string rest).map fun (text, rest) => (char :: text, rest)

/-! ### Values -/

/-- The whitespace of JSON. -/
def isBlank (char : Char) : Bool := char = ' ' || char = '\t' || char = '\n' || char = '\r'

def skip (chars : List Char) : List Char := chars.dropWhile isBlank

section Values

variable (value : List Char → Except Failure (Json × List Char))

/-- The items of an array, after the opening bracket and whitespace, and the closing bracket. -/
def items : Nat → List Char → Except Failure (List Json × List Char)
  | 0, _ => .error .malformed
  | fuel + 1, chars => do
      let (item, rest) ← value chars
      match skip rest with
      | ']' :: rest => return ([item], rest)
      | ',' :: rest => do
          let (more, rest) ← items fuel (skip rest)
          return (item :: more, rest)
      | _ => .error .malformed

/-- `entries[key] = item`, where the key keeps its place. -/
def assign (entries : Dict) (key : String) (item : Json) : Dict :=
  if Dict.has entries key then
    entries.map fun entry => if entry.1 = key then (key, item) else entry
  else entries ++ [(key, item)]

/-- The members of an object, after the opening brace and whitespace, and the closing brace. -/
def members : Nat → Dict → List Char → Except Failure (Dict × List Char)
  | 0, _, _ => .error .malformed
  | fuel + 1, entries, '"' :: chars => do
      let (key, rest) ← string chars
      match skip rest with
      | ':' :: rest => do
          let (item, rest) ← value (skip rest)
          let entries := assign entries (String.ofList key) item
          match skip rest with
          | '}' :: rest => return (entries, rest)
          | ',' :: rest => members fuel entries (skip rest)
          | _ => .error .malformed
      | _ => .error .malformed
  | _, _, _ => .error .malformed

/-- An array, after the opening bracket. -/
def array (chars : List Char) : Except Failure (Json × List Char) :=
  match skip chars with
  | ']' :: rest => .ok (.arr [], rest)
  | chars => (items value (chars.length + 1) chars).map fun (items, rest) => (.arr items, rest)

/-- An object, after the opening brace. -/
def object (chars : List Char) : Except Failure (Json × List Char) :=
  match skip chars with
  | '}' :: rest => .ok (.obj [], rest)
  | chars =>
      (members value (chars.length + 1) [] chars).map fun (entries, rest) => (.obj entries, rest)

end Values

/-- `scan_once`; `nested` reads what is nested, unless that is too deep. -/
def valueWith (floats : Floats) (nested : Option (List Char → Except Failure (Json × List Char))) :
    List Char → Except Failure (Json × List Char)
  | '"' :: rest => (string rest).map fun (text, rest) => (.str (String.ofList text), rest)
  | '{' :: rest =>
      match nested with
      | some value => object value rest
      | none => .error tooDeep
  | '[' :: rest =>
      match nested with
      | some value => array value rest
      | none => .error tooDeep
  | 'n' :: 'u' :: 'l' :: 'l' :: rest => .ok (.null, rest)
  | 't' :: 'r' :: 'u' :: 'e' :: rest => .ok (.bool true, rest)
  | 'f' :: 'a' :: 'l' :: 's' :: 'e' :: rest => .ok (.bool false, rest)
  | 'N' :: 'a' :: 'N' :: _ | 'I' :: 'n' :: 'f' :: 'i' :: 'n' :: 'i' :: 't' :: 'y' :: _
  | '-' :: 'I' :: 'n' :: 'f' :: 'i' :: 'n' :: 'i' :: 't' :: 'y' :: _ => .error .foreign
  | chars => numberValue floats chars

/-- `scan_once`, where values are nested `depth` deep at most. -/
def value (floats : Floats) : (depth : Nat) → List Char → Except Failure (Json × List Char)
  | 0 => valueWith floats none
  | depth + 1 => valueWith floats (some (value floats depth))

/-- `json.loads` of a text. -/
def loadsText (floats : Floats) (depth : Nat) (chars : List Char) : Except Failure Json := do
  let (json, rest) ← value floats depth (skip chars)
  if skip rest = [] then return json else .error .malformed

/-! ### Python -/

/-- What the program does not say about the Python that runs it. -/
structure Python where
  floats : Floats
  /-- How deep values may be nested before Python raises `RecursionError`. -/
  depth : Nat
  /-- `json.loads` where it meets what has no place in `Json`, and other encodings. -/
  foreign : List UInt8 → Except LoadError Json

/-- `json.loads` of bytes. -/
def loads (python : Python) (bytes : List UInt8) : Except LoadError Json :=
  let read := if isEncodedOtherwise bytes then .error .foreign
    else decode bytes >>= loadsText python.floats python.depth
  match read with
  | .ok json => .ok json
  | .error .malformed => .error .malformed
  | .error (.raises error) => .error (.raises error)
  | .error .foreign => python.foreign bytes

/-! ### Texts -/

section Texts

variable (floats : Floats)

/-- The text of a string, with its quotation marks. -/
def stringText (text : String) : List Char := '"' :: text.toList.flatMap escape ++ ['"']

mutual

/-- `json.dumps(value)`. -/
def dumps : Json → List Char
  | .null => ['n', 'u', 'l', 'l']
  | .bool true => ['t', 'r', 'u', 'e']
  | .bool false => ['f', 'a', 'l', 's', 'e']
  | .int number => intText number
  | .float number => (floats.repr number).chars
  | .str text => stringText text
  | .arr [] => ['[', ']']
  | .arr (item :: items) => '[' :: dumps item ++ moreItems items
  | .obj [] => ['{', '}']
  | .obj ((key, item) :: entries) =>
      '{' :: stringText key ++ [':', ' '] ++ dumps item ++ moreEntries entries

/-- The items after the first, and the closing bracket. -/
def moreItems : List Json → List Char
  | [] => [']']
  | item :: items => ',' :: ' ' :: dumps item ++ moreItems items

/-- The members after the first, and the closing brace. -/
def moreEntries : List (String × Json) → List Char
  | [] => ['}']
  | (key, item) :: entries =>
      ',' :: ' ' :: stringText key ++ [':', ' '] ++ dumps item ++ moreEntries entries

end

mutual

/-- The value is a Python value that `json.dumps` writes: its dictionaries have each key once, its
floats are floats, and it has neither too many digits nor too many levels. -/
def Writable : (depth : Nat) → Json → Prop
  | _, .null | _, .bool _ | _, .str _ => True
  | _, .int number => (numeral number.natAbs).length ≤ 4300
  | _, .float number => floats.isDouble number
  | 0, .arr _ | 0, .obj _ => False
  | depth + 1, .arr items => WritableItems depth items
  | depth + 1, .obj entries => (entries.map Prod.fst).Nodup ∧ WritableEntries depth entries

def WritableItems : (depth : Nat) → List Json → Prop
  | _, [] => True
  | depth, item :: items => Writable depth item ∧ WritableItems depth items

def WritableEntries : (depth : Nat) → List (String × Json) → Prop
  | _, [] => True
  | depth, (_, item) :: entries => Writable depth item ∧ WritableEntries depth entries

end

end Texts

/-- What `str.encode` makes of a text in ASCII. -/
def encode (chars : List Char) : List UInt8 := chars.map fun char => UInt8.ofNat char.toNat

end JsonText

end Loom
