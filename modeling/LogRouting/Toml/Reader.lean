import LogRouting.Toml.Text
import LogRouting.Toml.Value
/-!
Reading TOML documents: a text is split into statements, which then build the root table. Readers
take what they recognise off the front of a text and return the rest.
-/
namespace LogRouting.Toml

/-! Values that are single words: booleans, numbers, dates and times. -/

def isWordChar (c : Char) : Bool :=
  c.isAlphanum || c = '+' || c = '-' || c = '_' || c = '.' || c = ':'

def ungroup? (digit : Char → Bool) (afterDigit : Bool) : List Char → Option (List Char)
  | [] => if afterDigit then some [] else none
  | c :: r =>
    if digit c then (ungroup? digit true r).map (c :: ·)
    else if c = '_' && afterDigit then ungroup? digit false r
    else none

def digits? (s : List Char) : Option (List Char) :=
  ungroup? Text.isDigit false s

def wholeDigits? (s : List Char) : Option (List Char) :=
  if s.head? = some '0' then (if s = ['0'] then some s else none) else digits? s

def splitSign : List Char → Bool × List Char
  | '-' :: r => (true, r)
  | '+' :: r => (false, r)
  | r => (false, r)

def radixValue? (radix : Nat) (s : List Char) : Option Int := do
  let digit (c : Char) : Bool := (Text.hexValue? c).any (· < radix)
  let ds ← ungroup? digit false s
  some (ds.foldl (fun n c => n * radix + (Text.hexValue? c).getD 0) 0 : Nat)

/-- Integers are signed and have 64 bits, so that this one is the first that is too large. -/
def integerBound : Nat := 9223372036854775808

def integer? (s : List Char) : Option Int := do
  let n ← match s with
    | '0' :: 'x' :: r => radixValue? 16 r
    | '0' :: 'o' :: r => radixValue? 8 r
    | '0' :: 'b' :: r => radixValue? 2 r
    | _ => do
      let (negative, r) := splitSign s
      let n := Nat.ofDigitChars 10 (← wholeDigits? r) 0
      some (if negative then -n else n)
  if -(integerBound : Int) ≤ n ∧ n < integerBound then some n else none

/-- Whether `digits * 10 ^ exponent` is beyond the largest double by half a step or more. -/
def overflowsDouble (digits : List Char) (exponent : Int) : Bool :=
  let ds := digits.dropWhile (· = '0')
  let magnitude := ds.length + exponent
  if ds = [] ∨ magnitude < 308 then false
  else if 310 < magnitude then true
  else Nat.ofDigitChars 10 ds 0 * Nat.pow 10 exponent.toNat ≥
    (Nat.pow 2 1024 - Nat.pow 2 970) * Nat.pow 10 (-exponent).toNat

/-- A float has a fraction or an exponent, or is one of the named ones. A positive one has to be
finite. -/
def isFloat (s : List Char) : Bool :=
  let (negative, r) := splitSign s
  if r = ['i', 'n', 'f'] ∨ r = ['n', 'a', 'n'] then true
  else
    let isMark c := c = 'e' || c = 'E'
    let mantissa := r.takeWhile (!isMark ·)
    let whole := mantissa.takeWhile (· ≠ '.')
    let fraction? := match mantissa.dropWhile (· ≠ '.') with
      | [] => some []
      | _ :: f => digits? f
    let exponent? : Option Int := match r.dropWhile (!isMark ·) with
      | [] => some 0
      | _ :: e =>
        let (down, e) := splitSign e
        (digits? e).map fun ds =>
          if down then -(Nat.ofDigitChars 10 ds 0 : Int) else Nat.ofDigitChars 10 ds 0
    match wholeDigits? whole, fraction?, exponent? with
    | some w, some f, some e =>
      r.length ≠ whole.length && (negative || !overflowsDouble (w ++ f) (e - f.length))
    | _, _, _ => false

def fixed? (width : Nat) (s : List Char) : Option (Nat × List Char) :=
  let d := s.take width
  if d.length = width ∧ d.all Text.isDigit then some (Nat.ofDigitChars 10 d 0, s.drop width)
  else none

def mark? (c : Char) : List Char → Option (List Char)
  | d :: r => if d = c then some r else none
  | [] => none

def daysIn (year month : Nat) : Nat :=
  if month = 2 then
    if year % 4 = 0 ∧ (year % 100 ≠ 0 ∨ year % 400 = 0) then 29 else 28
  else if month = 4 ∨ month = 6 ∨ month = 9 ∨ month = 11 then 30
  else 31

def date? (s : List Char) : Option (List Char) := do
  let (year, r) ← fixed? 4 s
  let (month, r) ← fixed? 2 (← mark? '-' r)
  let (day, r) ← fixed? 2 (← mark? '-' r)
  guard (1 ≤ month ∧ month ≤ 12 ∧ 1 ≤ day ∧ day ≤ daysIn year month)
  some r

def time? (s : List Char) : Option (List Char) := do
  let (hour, r) ← fixed? 2 s
  let (minute, r) ← fixed? 2 (← mark? ':' r)
  let (second, r) ← fixed? 2 (← mark? ':' r)
  guard (hour ≤ 23 ∧ minute ≤ 59 ∧ second ≤ 60)
  match r with
  | '.' :: f =>
    guard (f.head?.any Text.isDigit)
    some (f.dropWhile Text.isDigit)
  | r => some r

def isOffset : List Char → Bool
  | [] => true
  | ['Z'] | ['z'] => true
  | c :: r => (c = '+' || c = '-') && (do
      let (hour, r) ← fixed? 2 r
      let (minute, r) ← fixed? 2 (← mark? ':' r)
      guard (hour ≤ 23 ∧ minute ≤ 59 ∧ r = [])
      some ()).isSome

def isDatetime (s : List Char) : Bool :=
  match date? s with
  | some [] => true
  | some (c :: r) => (c = 'T' || c = 't' || c = ' ') && (time? r).any isOffset
  | none => time? s = some []

def scalar? (word : List Char) : Option Value :=
  if word = ['t', 'r', 'u', 'e'] then some (.boolean true)
  else if word = ['f', 'a', 'l', 's', 'e'] then some (.boolean false)
  else if isDatetime word then some .datetime
  else if isFloat word then some .float
  else (integer? word).map .integer

/-- The word at the start of a text. A date takes a time of day that follows it after a space. -/
def splitWord (s : List Char) : List Char × List Char :=
  let (word, r) := s.span isWordChar
  match r with
  | ' ' :: t =>
    if date? word = some [] ∧ t.head?.any Text.isDigit then
      let (time, r) := t.span isWordChar
      (word ++ ' ' :: time, r)
    else (word, r)
  | _ => (word, r)

/-! Keys, values and statements. -/

def skipSpace (s : List Char) : List Char :=
  s.dropWhile isSpace

def isCommentChar (c : Char) : Bool :=
  !isControl c || c = '\t'

def skipComment : List Char → List Char
  | '#' :: r => r.dropWhile isCommentChar
  | s => s

def lineEnd? (s : List Char) : Option (List Char) :=
  match skipComment (skipSpace s) with
  | [] => some []
  | r => newline? r

def skipGap (inComment : Bool) : List Char → List Char
  | [] => []
  | '\r' :: '\n' :: r => skipGap false r
  | c :: r =>
    if c = '\n' then skipGap false r
    else if inComment then if isCommentChar c then skipGap true r else c :: r
    else if isSpace c then skipGap false r
    else if c = '#' then skipGap true r
    else c :: r

def isBareKeyChar (c : Char) : Bool :=
  c.isAlphanum || c = '-' || c = '_'

def simpleKey? (s : List Char) : Option (String × List Char) :=
  match s with
  | '\x22' :: r => (Quotation.basic.scan .text r).map fun (k, r) => (String.ofList k, r)
  | '\x27' :: r => (Quotation.literal.scan .text r).map fun (k, r) => (String.ofList k, r)
  | s =>
    match s.span isBareKeyChar with
    | ([], _) => none
    | (k, r) => some (String.ofList k, r)

def nestingLimit : Nat := 80

/-- A key as its dotted parents and its last part, with blanks around each of them. The bound on
the parts is one on the nesting of the tables that they name. -/
def key? (bound : Nat) (s : List Char) : Option ((List String × String) × List Char) :=
  match bound with
  | 0 => none
  | bound + 1 => do
    let (k, r) ← simpleKey? (skipSpace s)
    match skipSpace r with
    | '.' :: r =>
      let ((parents, last), r) ← key? bound r
      some ((k :: parents, last), r)
    | r => some (([], k), r)

mutual

/-- A value and what follows it. `room` is how many levels deeper values may nest, and `fuel`
bounds the number of nested calls. -/
def value? : (fuel room : Nat) → List Char → Option (Value × List Char)
  | 0, _, _ => none
  | fuel + 1, room, s =>
    match s with
    | '[' :: r =>
      match room with
      | 0 => none
      | room + 1 => do
        let (items, r) ← items? fuel room r
        some (.array items, r)
    | '\x7b' :: r =>
      match room with
      | 0 => none
      | room + 1 =>
        match skipSpace r with
        | '\x7d' :: r => some (.table .inline [], r)
        | r => do
          let (entries, r) ← pairs? fuel room [] r
          some (.table .inline entries, r)
    | '\x22' :: _ | '\x27' :: _ => (string? s).map fun (t, r) => (.string (String.ofList t), r)
    | s => do
      let (word, r) := splitWord s
      some (← scalar? word, r)

def items? : (fuel room : Nat) → List Char → Option (List Value × List Char)
  | 0, _, _ => none
  | fuel + 1, room, s =>
    match skipGap false s with
    | ']' :: r => some ([], r)
    | s => do
      let (v, r) ← value? fuel room s
      match skipGap false r with
      | ',' :: r =>
        let (vs, r) ← items? fuel room r
        some (v :: vs, r)
      | ']' :: r => some ([v], r)
      | _ => none

/-- The pairs of an inline table up to its end, added to those before them. -/
def pairs? : (fuel room : Nat) → Entries → List Char → Option (Entries × List Char)
  | 0, _, _, _ => none
  | fuel + 1, room, es, s => do
    let ((parents, key), r) ← key? (nestingLimit - 1) s
    let (v, r) ← value? fuel room (skipSpace (← mark? '=' r))
    let es ← Entries.insert .inline es parents key v
    match skipSpace r with
    | ',' :: r => pairs? fuel room es r
    | '\x7d' :: r => some (es, r)
    | _ => none

end

def statement? (s : List Char) : Option (Statement × List Char) :=
  match skipSpace s with
  | '[' :: '[' :: r => do
    let ((parents, key), r) ← key? (nestingLimit - 1) r
    some (.arrayHeader parents key, ← mark? ']' (← mark? ']' r))
  | '[' :: r => do
    let ((parents, key), r) ← key? (nestingLimit - 1) r
    some (.header parents key, ← mark? ']' r)
  | s => do
    let ((parents, key), r) ← key? (nestingLimit - 1) s
    let r := skipSpace (← mark? '=' r)
    let (v, r) ← value? (2 * r.length + 1) (nestingLimit - 1) r
    some (.pair parents key v, r)

/-- The statements of a text. Every line takes a character at least, which bounds their number. -/
def statements? : (fuel : Nat) → List Char → Option (List Statement)
  | _, [] => some []
  | 0, _ => none
  | fuel + 1, s =>
    match lineEnd? s with
    | some r => statements? fuel r
    | none => do
      let (st, r) ← statement? s
      let sts ← statements? fuel (← lineEnd? r)
      some (st :: sts)

def skipMark : List Char → List Char
  | '\uFEFF' :: s => s
  | s => s

def parse? (s : List Char) : Option Entries := do
  Document.build? (← statements? s.length (skipMark s))

end LogRouting.Toml
