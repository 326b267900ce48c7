import LogRouting.Text
/-!
Writing and reading JSON. It is written without blanks and kept as the pieces in which it is handed
to a writer; only a writer that runs out of room can tell where they end. A reader learns the values
in text order, so the tree of a text that stops being JSON somewhere holds all that stands before
that place: a container that was not closed says so, and its last value may be `broken`.
-/
namespace LogRouting.Json

abbrev Pieces := List (List Char)

def hexDigits : List Char :=
  ['0', '1', '2', '3', '4', '5', '6', '7', '8', '9', 'a', 'b', 'c', 'd', 'e', 'f']

def hexDigit (n : Nat) : Char :=
  hexDigits.getD n '0'

/-- The escape of a character that may not stand for itself: quotes, backslashes and the 32 lowest
control characters. -/
def escape? (c : Char) : Option (List Char) :=
  if c = '\x22' then some ['\\', '\x22']
  else if c = '\\' then some ['\\', '\\']
  else if c = '\x08' then some ['\\', 'b']
  else if c = '\x0c' then some ['\\', 'f']
  else if c = '\n' then some ['\\', 'n']
  else if c = '\r' then some ['\\', 'r']
  else if c = '\t' then some ['\\', 't']
  else if c.toNat < 0x20 then
    some ['\\', 'u', '0', '0', hexDigit (c.toNat / 16), hexDigit (c.toNat % 16)]
  else none

/-- The pieces between the quotes: runs of plain characters, and escapes. `run` is the plain run
being collected, last character first. -/
def stringPieces (run : List Char) : List Char → Pieces
  | [] => flush []
  | c :: s =>
    match escape? c with
    | some e => flush (e :: stringPieces [] s)
    | none => stringPieces (c :: run) s
where
  flush (rest : Pieces) : Pieces :=
    if run.isEmpty then rest else run.reverse :: rest

def quoted (s : String) : Pieces :=
  ['\x22'] :: (stringPieces [] s.toList ++ [['\x22']])

def naturalPiece (n : Nat) : Pieces :=
  [Text.numeral n]

def integerPiece (n : Int) : Pieces :=
  [Text.signedNumeral n]

def membersAfter (lead : Pieces) : List (String × Pieces) → Pieces
  | [] => []
  | (key, value) :: rest =>
    lead ++ quoted key ++ [[':']] ++ value ++ membersAfter [[',']] rest

def objectPieces (members : List (String × Pieces)) : Pieces :=
  ['\x7b'] :: (membersAfter [] members ++ [['\x7d']])

end LogRouting.Json

namespace LogRouting

/-- A string is `none` if an escape leaves half of a surrogate pair alone. Numbers with a fraction
or an exponent are told from integers and nothing more, and so is a negative zero. -/
inductive Json where
  | null
  | bool (b : Bool)
  | integer (n : Int)
  | real
  | string (s : Option String)
  | array (items : List Json) (closed : Bool)
  | object (members : List (Option String × Json)) (closed : Bool)
  | broken
  deriving Repr, Inhabited

namespace Json

/-- Whether the text of the value is JSON to its end. What is broken leaves all around it open. -/
def complete : Json → Bool
  | broken => false
  | array _ closed => closed
  | object _ closed => closed
  | _ => true

def isBlank (c : Char) : Bool :=
  c = ' ' || c = '\n' || c = '\t' || c = '\r'

def skipBlank (s : List Char) : List Char :=
  s.dropWhile isBlank

def shortEscape? (c : Char) : Option Char :=
  if c = '\x22' ∨ c = '\\' ∨ c = '/' then some c
  else if c = 'b' then some '\x08'
  else if c = 'f' then some '\x0c'
  else if c = 'n' then some '\n'
  else if c = 'r' then some '\r'
  else if c = 't' then some '\t'
  else none

/-- One character of a string, or the 16-bit code of a numeric escape. -/
inductive Unit16 where
  | char (c : Char)
  | code (n : Nat)

inductive StringMode where
  | text
  | escape
  | hex (left value : Nat)

def scanString : StringMode → List Char → Option (List Unit16 × List Char)
  | _, [] => none
  | .text, c :: r =>
    if c = '\x22' then some ([], r)
    else if c = '\\' then scanString .escape r
    else if c.toNat < 0x20 then none
    else (scanString .text r).map fun (s, r) => (.char c :: s, r)
  | .escape, c :: r =>
    if c = 'u' then scanString (.hex 3 0) r
    else match shortEscape? c with
      | some d => (scanString .text r).map fun (s, r) => (.char d :: s, r)
      | none => none
  | .hex left value, c :: r =>
    match Text.hexValue? c, left with
    | none, _ => none
    | some d, left + 1 => scanString (.hex left (16 * value + d)) r
    | some d, 0 => (scanString .text r).map fun (s, r) => (.code (16 * value + d) :: s, r)

def isHighSurrogate (n : Nat) : Bool :=
  0xD800 ≤ n && n < 0xDC00

def isLowSurrogate (n : Nat) : Bool :=
  0xDC00 ≤ n && n < 0xE000

/-- Joins surrogate pairs; half a pair has no text. -/
def joinUnits : List Unit16 → Option (List Char)
  | [] => some []
  | .char c :: r => (joinUnits r).map (c :: ·)
  | .code hi :: .code lo :: r =>
    if isHighSurrogate hi && isLowSurrogate lo then
      (joinUnits r).map (Char.ofNat (0x10000 + (hi - 0xD800) * 0x400 + (lo - 0xDC00)) :: ·)
    else if isHighSurrogate hi || isLowSurrogate hi then none
    else (joinUnits (.code lo :: r)).map (Char.ofNat hi :: ·)
  | .code n :: r =>
    if isHighSurrogate n || isLowSurrogate n then none
    else (joinUnits r).map (Char.ofNat n :: ·)

def string? (s : List Char) : Option (Option String × List Char) :=
  (scanString .text s).map fun (units, r) => ((joinUnits units).map String.ofList, r)

def digits? (s : List Char) : Option (List Char × List Char) :=
  match s.span Text.isDigit with
  | ([], _) => none
  | (d, r) => some (d, r)

def skipFraction? : List Char → Option (Bool × List Char)
  | '.' :: s => (digits? s).map fun (_, r) => (true, r)
  | s => some (false, s)

def skipSign : List Char → List Char
  | '+' :: s | '-' :: s => s
  | s => s

def skipExponent? : List Char → Option (Bool × List Char)
  | 'e' :: s | 'E' :: s => (digits? (skipSign s)).map fun (_, r) => (true, r)
  | s => some (false, s)

def unsigned? (negative : Bool) (s : List Char) : Option (Json × List Char) := do
  let (d, r) ← digits? s
  if d.head? = some '0' ∧ d ≠ ['0'] then none
  let (fractional, r) ← skipFraction? r
  let (scaled, r) ← skipExponent? r
  let n := Nat.ofDigitChars 10 d 0
  if fractional ∨ scaled ∨ (negative ∧ n = 0) then some (real, r)
  else some (integer (if negative then -n else n), r)

def number? : List Char → Option (Json × List Char)
  | '-' :: s => unsigned? true s
  | s => unsigned? false s

def literal? (word : List Char) (v : Json) (s : List Char) : Option (Json × List Char) :=
  if s.take word.length = word then some (v, s.drop word.length) else none

def scalar? (s : List Char) : Option (Json × List Char) :=
  (literal? ['n', 'u', 'l', 'l'] null s).or <|
  (literal? ['t', 'r', 'u', 'e'] (bool true) s).or <|
  (literal? ['f', 'a', 'l', 's', 'e'] (bool false) s).or <|
  number? s

mutual

/-- One value and what follows it; nothing follows where the text breaks. The first argument
bounds the number of nested calls. -/
def value : Nat → List Char → Json × Option (List Char)
  | 0, _ => (broken, none)
  | fuel + 1, s =>
    match skipBlank s with
    | '\x22' :: r =>
      match string? r with
      | some (t, r) => (string t, some r)
      | none => (broken, none)
    | '[' :: r =>
      match skipBlank r with
      | ']' :: r => (array [] true, some r)
      | r =>
        let (items, rest) := elements fuel r
        (array items rest.isSome, rest)
    | '\x7b' :: r =>
      match skipBlank r with
      | '\x7d' :: r => (object [] true, some r)
      | r =>
        let (ms, rest) := members fuel r
        (object ms rest.isSome, rest)
    | s =>
      match scalar? s with
      | some (v, r) => (v, some r)
      | none => (broken, none)

def elements : Nat → List Char → List Json × Option (List Char)
  | 0, _ => ([], none)
  | fuel + 1, s =>
    match value fuel s with
    | (v, none) => ([v], none)
    | (v, some r) =>
      match skipBlank r with
      | ',' :: r =>
        let (vs, rest) := elements fuel r
        (v :: vs, rest)
      | ']' :: r => ([v], some r)
      | _ => ([v], none)

def members : Nat → List Char → List (Option String × Json) × Option (List Char)
  | 0, _ => ([], none)
  | fuel + 1, s =>
    match skipBlank s with
    | '\x22' :: r =>
      match string? r with
      | none => ([], none)
      | some (key, r) =>
        match skipBlank r with
        | ':' :: r =>
          match value fuel r with
          | (v, none) => ([(key, v)], none)
          | (v, some r) =>
            match skipBlank r with
            | ',' :: r =>
              let (ms, rest) := members fuel r
              ((key, v) :: ms, rest)
            | '\x7d' :: r => ([(key, v)], some r)
            | _ => ([(key, v)], none)
        | _ => ([(key, broken)], none)
    | _ => ([], none)

end

def parse (s : List Char) : Json × Bool :=
  match value (2 * s.length + 2) s with
  | (v, some r) => (v, (skipBlank r).isEmpty)
  | (v, none) => (v, false)

/-- Whether the value can hold the named fields: an object that gives none of them twice, or an
array with no more items than fields. -/
def holds (names : List String) : Json → Bool
  | object ms closed =>
    closed && ms.all (·.1.isSome) && ((ms.filterMap (·.1)).filter (names.contains ·)).Nodup
  | array items closed => closed && items.length ≤ names.length
  | _ => false

def field? (index : Nat) (name : String) : Json → Option Json
  | object ms _ => ms.lookup (some name)
  | array items _ => items[index]?
  | _ => none

def text? : Json → Option String
  | string s => s
  | _ => none

def integerIn? (low high : Int) : Json → Option Int
  | integer n => if low ≤ n ∧ n ≤ high then some n else none
  | _ => none

def int32? (v : Json) : Option Int32 :=
  (v.integerIn? (-2147483648) 2147483647).map Int32.ofInt

def uint32? (v : Json) : Option UInt32 :=
  (v.integerIn? 0 4294967295).map fun n => UInt32.ofNat n.toNat

def uint64? (v : Json) : Option UInt64 :=
  (v.integerIn? 0 18446744073709551615).map fun n => UInt64.ofNat n.toNat

end Json

end LogRouting
