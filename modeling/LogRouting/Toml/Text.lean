import LogRouting.Text
/-!
Strings in TOML: the four quotations, the one a value is written in, and the machine that reads
all four.
-/
namespace LogRouting.Toml

/-- A quotation may span lines, between three quotes, and may have escapes. -/
structure Quotation where
  quote : Char
  escapes : Bool
  lines : Bool
  deriving DecidableEq, Repr

namespace Quotation

def basic : Quotation := ⟨'\x22', true, false⟩
def basicLines : Quotation := ⟨'\x22', true, true⟩
def literal : Quotation := ⟨'\x27', false, false⟩
def literalLines : Quotation := ⟨'\x27', false, true⟩

def delimiter (q : Quotation) : List Char :=
  List.replicate (if q.lines then 3 else 1) q.quote

end Quotation

def isControl (c : Char) : Bool :=
  c.toNat < 0x20 || c.toNat = 0x7F

def longestRun (q : Char) (run : Nat) : List Char → Nat
  | [] => run
  | c :: s => if c = q then longestRun q (run + 1) s else max run (longestRun q 0 s)

/-- Whether the quotation can hold the text without an escape other than that of a tab. -/
def Quotation.holds (q : Quotation) (s : List Char) : Bool :=
  s.all (fun c => !isControl c || c = '\t' || (q.lines && c = '\n')) &&
    (!q.escapes || !s.contains '\\') &&
    (if q.lines then longestRun q.quote 0 s ≤ 2 else !s.contains q.quote)

def quotationOf (s : List Char) : Quotation :=
  if Quotation.basic.holds s then .basic
  else if Quotation.literal.holds s then .literal
  else if Quotation.basicLines.holds s then .basicLines
  else if Quotation.literalLines.holds s then .literalLines
  else if s.contains '\n' then .basicLines
  else .basic

def upperHexDigits : List Char :=
  ['0', '1', '2', '3', '4', '5', '6', '7', '8', '9', 'A', 'B', 'C', 'D', 'E', 'F']

def upperHexDigit (n : Nat) : Char :=
  upperHexDigits.getD n '0'

def escape? (lines : Bool) (c : Char) : Option (List Char) :=
  if c = '\\' then some ['\\', '\\']
  else if c = '\x08' then some ['\\', 'b']
  else if c = '\t' then some ['\\', 't']
  else if c = '\n' then if lines then none else some ['\\', 'n']
  else if c = '\x0c' then some ['\\', 'f']
  else if c = '\r' then some ['\\', 'r']
  else if isControl c then
    some ['\\', 'u', '0', '0', upperHexDigit (c.toNat / 16), upperHexDigit (c.toNat % 16)]
  else none

/-- The inside of a basic quotation. Between lines a quote stands for itself unless it would be
the third in a row; `run` counts the quotes just before. -/
def escapeBasic (lines : Bool) (run : Nat) : List Char → List Char
  | [] => []
  | c :: s =>
    if c = '\x22' then
      if lines ∧ run < 2 then c :: escapeBasic lines (run + 1) s
      else '\\' :: c :: escapeBasic lines 0 s
    else (escape? lines c).getD [c] ++ escapeBasic lines 0 s

/-- A string as a value. A quotation over lines starts on a line of its own if the text has more
than one. -/
def quoted (s : List Char) : List Char :=
  let q := quotationOf s
  q.delimiter ++ (if q.lines && s.contains '\n' then ['\n'] else []) ++
    (if q.escapes then escapeBasic q.lines 0 s else s) ++ q.delimiter

/-- What the next character of a string is read as. `quotes` counts quotes that may belong to the
text or to its end; `joint` is a line end that a backslash hides, which `joined` text follows. -/
inductive Mode where
  | text
  | quotes (n : Nat)
  | escape
  | code (left value : Nat)
  | joint
  | jointReturn
  | joined
  | carriageReturn
  deriving Repr

inductive Step where
  | next (out : List Char) (mode : Mode)
  | close (out : List Char) (taken : Bool)
  | bad

def Step.after (out : List Char) : Step → Step
  | next more mode => next (out ++ more) mode
  | close more taken => close (out ++ more) taken
  | bad => bad

def isSpace (c : Char) : Bool :=
  c = ' ' || c = '\t'

namespace Quotation

def textStep (q : Quotation) (c : Char) : Step :=
  if c = q.quote then if q.lines then .next [] (.quotes 1) else .close [] true
  else if q.escapes && c = '\\' then .next [] .escape
  else if q.lines && c = '\n' then .next ['\n'] .text
  else if q.lines && c = '\r' then .next [] .carriageReturn
  else if isControl c && c ≠ '\t' then .bad
  else .next [c] .text

/-- Three quotes end a text over lines; up to two more before them belong to it. -/
def quotesStep (q : Quotation) (n : Nat) (c : Char) : Step :=
  if c = q.quote then
    if n = 4 then .close [q.quote, q.quote] true else .next [] (.quotes (n + 1))
  else if 3 ≤ n then .close (List.replicate (n - 3) q.quote) false
  else (q.textStep c).after (List.replicate n q.quote)

def jointStep (c : Char) : Step :=
  if isSpace c then .next [] .joint
  else if c = '\n' then .next [] .joined
  else if c = '\r' then .next [] .jointReturn
  else .bad

def escapeStep (q : Quotation) (c : Char) : Step :=
  if c = '\x22' || c = '\\' then .next [c] .text
  else if c = 'b' then .next ['\x08'] .text
  else if c = 'f' then .next ['\x0c'] .text
  else if c = 'n' then .next ['\n'] .text
  else if c = 'r' then .next ['\r'] .text
  else if c = 't' then .next ['\t'] .text
  else if c = 'u' then .next [] (.code 3 0)
  else if c = 'U' then .next [] (.code 7 0)
  else if q.lines then jointStep c
  else .bad

def codeStep (left value : Nat) (c : Char) : Step :=
  match Text.hexValue? c with
  | none => .bad
  | some d =>
    let n := 16 * value + d
    if 0 < left then .next [] (.code (left - 1) n)
    else if n.isValidChar then .next [Char.ofNat n] .text
    else .bad

def step (q : Quotation) : Mode → Char → Step
  | .text, c => q.textStep c
  | .quotes n, c => q.quotesStep n c
  | .escape, c => q.escapeStep c
  | .code left value, c => codeStep left value c
  | .joint, c => jointStep c
  | .jointReturn, c => if c = '\n' then .next [] .joined else .bad
  | .joined, c =>
    if isSpace c || c = '\n' then .next [] .joined
    else if c = '\r' then .next [] .jointReturn
    else q.textStep c
  | .carriageReturn, c => if c = '\n' then .next ['\n'] .text else .bad

def scan (q : Quotation) : Mode → List Char → Option (List Char × List Char)
  | .quotes n, [] => if 3 ≤ n then some (List.replicate (n - 3) q.quote, []) else none
  | _, [] => none
  | mode, c :: r =>
    match q.step mode c with
    | .next out mode => (q.scan mode r).map fun (s, rest) => (out ++ s, rest)
    | .close out taken => some (out, if taken then r else c :: r)
    | .bad => none

end Quotation

def newline? : List Char → Option (List Char)
  | '\n' :: r => some r
  | '\r' :: '\n' :: r => some r
  | _ => none

/-- A string value in any of the quotations. A line end right after the opening quotes of one over
lines is no part of it. -/
def string? (s : List Char) : Option (List Char × List Char) :=
  match s with
  | '\x22' :: '\x22' :: '\x22' :: r => Quotation.basicLines.scan .text ((newline? r).getD r)
  | '\x22' :: r => Quotation.basic.scan .text r
  | '\x27' :: '\x27' :: '\x27' :: r => Quotation.literalLines.scan .text ((newline? r).getD r)
  | '\x27' :: r => Quotation.literal.scan .text r
  | _ => none

/-! Documents of plain tables: a header, then a line for every key, then a blank line before the
next table -/

inductive Scalar where
  | text (s : String)
  | natural (n : Nat)
  | flag (b : Bool)
  deriving DecidableEq, Repr

def Scalar.render : Scalar → List Char
  | text s => quoted s.toList
  | natural n => Text.numeral n
  | flag b => if b then ['t', 'r', 'u', 'e'] else ['f', 'a', 'l', 's', 'e']

structure Table where
  name : String
  entries : List (String × Scalar)
  deriving DecidableEq, Repr

def renderEntry (e : String × Scalar) : List Char :=
  e.1.toList ++ [' ', '=', ' '] ++ e.2.render ++ ['\n']

def Table.render (t : Table) : List Char :=
  '[' :: (t.name.toList ++ [']', '\n']) ++ t.entries.flatMap renderEntry

def render (tables : List Table) : List Char :=
  ((tables.map Table.render).intersperse ['\n']).flatten

end LogRouting.Toml
