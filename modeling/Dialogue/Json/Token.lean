import Dialogue.Json.Reading
import Dialogue.Number.Binary64

/-!
# The tokens of a JSON text

`Dialogue.Json.tokens` cuts the bytes of a text into brackets, commas, colons and
scalars. The bytes are taken one at a time by `Dialogue.Json.Scanner.step`, which
keeps what it has read of an unfinished scalar in `Dialogue.Json.Scanning`. The
tokens end early with `Dialogue.Json.Token.broken` or `Dialogue.Json.Token.stray`
where even a reader that skips cannot go on.
-/

namespace Dialogue

namespace Json

/-- A token of a JSON text. -/
inductive Token
  | openArray
  | closeArray
  | openObject
  | closeObject
  | colon
  | comma
  /-- A string; `none` if its characters cannot be read, although it has an end. -/
  | text (content : Option String)
  /-- Any other scalar that has an end. -/
  | scalar (value : Reading)
  /-- A scalar that cannot be skipped; the last token. -/
  | broken (what : Torn) (read skip : Fault)
  /-- A byte no token begins with; the last token. -/
  | stray
  deriving Inhabited

/-! ### Numbers -/

/-- A number literal as far as it is read: its digits in reverse order, those of the
exponent apart. -/
structure Literal where
  negative : Bool
  whole : List Char
  fraction : List Char
  exponentNegative : Bool
  exponent : List Char
  /-- All characters in reverse order. -/
  written : List Char

/-- The largest significand that is kept exactly. -/
def significandLimit : Nat :=
  UInt64.size - 1

/-- Takes the digits before the point into a significand, as long as it stays within
the limit; from the first digit that would exceed it, digits count as zeros. The
second number counts those. -/
def takeWhole : List Char → Nat → Nat × Nat
  | [], n => (n, 0)
  | c :: rest, n =>
    if 10 * n + Number.digitValue c ≤ significandLimit then
      takeWhole rest (10 * n + Number.digitValue c)
    else
      (n, rest.length + 1)

/-- Takes the digits after the point into a significand, as long as it stays within
the limit; the digits from the first that would exceed it are dropped. The second
number counts those taken. -/
def takeFraction : List Char → Nat → Nat × Nat
  | [], n => (n, 0)
  | c :: rest, n =>
    if 10 * n + Number.digitValue c ≤ significandLimit then
      let (m, taken) := takeFraction rest (10 * n + Number.digitValue c)
      (m, taken + 1)
    else
      (n, 0)

/-- Whether a significand times a power of ten overflows double precision, when the
significand, the power and their product are rounded one after the other. -/
def overflows (significand : Nat) (exponent : Int) : Bool :=
  significand != 0 && (308 < exponent ||
    (0 ≤ exponent &&
      Nat.pow 2 1024 - Nat.pow 2 970 ≤
        Number.nearest significand 1 * Number.nearest (Nat.pow 10 exponent.toNat) 1))

/-- The value of a finished literal. It is a whole number if it has neither a
fraction nor an exponent, is not `-0` and fits into 64 bits; it cannot be read if it
overflows double precision. -/
def Literal.value (l : Literal) : Reading :=
  let n := Number.valueOf l.whole.reverse
  let (significand, zeros) := takeWhole l.whole.reverse 0
  if l.fraction.isEmpty && l.exponent.isEmpty && !l.negative && n ≤ significandLimit then
    .int n
  else if l.fraction.isEmpty && l.exponent.isEmpty && l.negative && n != 0 && n ≤ UInt64.size / 2 then
    .int (-n)
  else
    let (significand, taken) := takeFraction l.fraction.reverse significand
    let written : Int := Number.valueOf l.exponent.reverse
    let exponent : Int := (zeros : Int) - taken + (if l.exponentNegative then -written else written)
    if overflows significand exponent then
      .torn .word .malformed none
    else
      .decimal (String.ofList l.written.reverse)

/-- Where in a number literal the reader stands, named for the part just read. -/
inductive NumberPart
  | sign
  | zero
  | whole
  | point
  | fraction
  | exponentMark
  | exponentSign
  | exponent
  deriving DecidableEq, Repr

/-- Whether a number literal may end after this part. -/
def NumberPart.complete : NumberPart → Bool
  | zero | whole | fraction | exponent => true
  | _ => false

/-- The next part of a number literal, if the character belongs to it. -/
def NumberPart.next? (part : NumberPart) (c : Char) : Option NumberPart :=
  match part with
  | sign => if c = '0' then some zero else if c.isDigit then some whole else none
  | zero =>
    if c = '.' then some point else if c = 'e' || c = 'E' then some exponentMark else none
  | whole =>
    if c.isDigit then some whole
    else if c = '.' then some point
    else if c = 'e' || c = 'E' then some exponentMark
    else none
  | point => if c.isDigit then some fraction else none
  | fraction =>
    if c.isDigit then some fraction
    else if c = 'e' || c = 'E' then some exponentMark
    else none
  | exponentMark =>
    if c.isDigit then some exponent
    else if c = '+' || c = '-' then some exponentSign
    else none
  | exponentSign => if c.isDigit then some exponent else none
  | exponent => if c.isDigit then some exponent else none

/-- Adds a character that leads to the given part. -/
def Literal.add (l : Literal) (part : NumberPart) (c : Char) : Literal :=
  let l := { l with written := c :: l.written }
  match part with
  | .sign => { l with negative := true }
  | .zero | .whole => { l with whole := c :: l.whole }
  | .fraction => { l with fraction := c :: l.fraction }
  | .exponentSign => { l with exponentNegative := c = '-' }
  | .exponent => { l with exponent := c :: l.exponent }
  | .point | .exponentMark => l

/-! ### Strings -/

/-- Where in a string the reader stands with respect to escapes. -/
inductive Escape
  | none
  /-- After a backslash. -/
  | backslash
  /-- After `\u` and the given bytes, in reverse order; `lead` is the first half of a
  surrogate pair, if one stands before. -/
  | hex (digits : List UInt8) (lead : Option Nat)
  /-- After the first half of a surrogate pair; a backslash is due. -/
  | pair (lead : Nat)
  /-- After the first half of a surrogate pair and a backslash. -/
  | pairBackslash (lead : Nat)

/-- The value of a hexadecimal digit. -/
def hexDigit? (b : UInt8) : Option Nat :=
  let n := b.toNat
  if 0x30 ≤ n && n ≤ 0x39 then some (n - 0x30)
  else if 0x41 ≤ n && n ≤ 0x46 then some (n - 0x41 + 10)
  else if 0x61 ≤ n && n ≤ 0x66 then some (n - 0x61 + 10)
  else none

/-- The number that hexadecimal digits in reverse order stand for. -/
def hexValue? : List UInt8 → Option Nat
  | [] => some 0
  | b :: rest => do
    let high ← hexValue? rest
    return 16 * high + (← hexDigit? b)

/-- The character that a letter after a backslash stands for. -/
def escapedByte? (b : UInt8) : Option UInt8 :=
  match Char.ofNat b.toNat with
  | '"' | '\\' | '/' => some b
  | 'b' => some 0x08
  | 'f' => some 0x0C
  | 'n' => some 0x0A
  | 'r' => some 0x0D
  | 't' => some 0x09
  | _ => none

/-- The bytes of a code point, in reverse order. -/
def reversedBytes (n : Nat) : List UInt8 :=
  (String.utf8EncodeChar (Char.ofNat n)).reverse

/-- The string with the given bytes, which are in reverse order, if they are valid. -/
def textOfReversed? (bytes : List UInt8) : Option String :=
  String.fromUTF8? ⟨bytes.reverse.toArray⟩

/-! ### The scanner -/

/-- What the scanner has read of an unfinished token. -/
inductive Scanning
  | between
  /-- Inside `null`, `true` or `false`, with the next letter and the rest of the word
  still due. -/
  | word (next : Char) (rest : List Char) (value : Reading)
  | number (part : NumberPart) (literal : Literal)
  /-- Inside a string, with its bytes in reverse order; the flag says whether its
  characters can still be read. -/
  | string (bytes : List UInt8) (readable : Bool) (escape : Escape)
  /-- After the last token. -/
  | stopped

/-- The tokens found so far, in reverse order, and what is read of the next one. -/
structure Scanner where
  found : List Token
  scanning : Scanning

namespace Scanner

/-- Adds a finished token. -/
def emit (s : Scanner) (t : Token) : Scanner :=
  ⟨t :: s.found, .between⟩

/-- Adds a token after which nothing can be read. -/
def stop (s : Scanner) (t : Token) : Scanner :=
  ⟨t :: s.found, .stopped⟩

/-- Goes on in an unfinished token. -/
def goOn (s : Scanner) (scanning : Scanning) : Scanner :=
  { s with scanning }

/-- Takes the first character of a token, or a blank. -/
def begin (s : Scanner) (c : Char) : Scanner :=
  match c with
  | ' ' | '\n' | '\t' | '\r' => s.goOn .between
  | '[' => s.emit .openArray
  | ']' => s.emit .closeArray
  | '\x7b' => s.emit .openObject
  | '\x7d' => s.emit .closeObject
  | ':' => s.emit .colon
  | ',' => s.emit .comma
  | '"' => s.goOn (.string [] true .none)
  | 'n' => s.goOn (.word 'u' ['l', 'l'] .null)
  | 't' => s.goOn (.word 'r' ['u', 'e'] (.bool true))
  | 'f' => s.goOn (.word 'a' ['l', 's', 'e'] (.bool false))
  | '-' => s.goOn (.number .sign (Literal.add ⟨false, [], [], false, [], []⟩ .sign c))
  | _ =>
    match NumberPart.sign.next? c with
    | some part => s.goOn (.number part (Literal.add ⟨false, [], [], false, [], []⟩ part c))
    | none => s.stop .stray

/-- Takes a byte inside a string. A control, an unknown escape and an escape without
four hexadecimal digits stop every reader; half a surrogate pair only makes the
characters unreadable. -/
def stepString (s : Scanner) (bytes : List UInt8) (readable : Bool) (escape : Escape)
    (b : UInt8) : Scanner :=
  let plain (readable : Bool) : Scanner :=
    if b = 0x22 then
      s.emit (.text (if readable then textOfReversed? bytes else none))
    else if b = 0x5C then
      s.goOn (.string bytes readable .backslash)
    else if b < 0x20 then
      s.stop (.broken .text .malformed .malformed)
    else
      s.goOn (.string (b :: bytes) readable .none)
  let afterBackslash (readable : Bool) : Scanner :=
    if b = 0x75 then
      s.goOn (.string bytes readable (.hex [] none))
    else
      match escapedByte? b with
      | some e => s.goOn (.string (e :: bytes) readable .none)
      | none => s.stop (.broken .text .malformed .malformed)
  match escape with
  | .none => plain readable
  | .backslash => afterBackslash readable
  | .pair lead =>
    if b = 0x5C then s.goOn (.string bytes readable (.pairBackslash lead)) else plain false
  | .pairBackslash lead =>
    if b = 0x75 then s.goOn (.string bytes readable (.hex [] (some lead)))
    else afterBackslash false
  | .hex digits lead =>
    if digits.length < 3 then
      s.goOn (.string bytes readable (.hex (b :: digits) lead))
    else
      match hexValue? (b :: digits), lead with
      | none, _ => s.stop (.broken .text .malformed .malformed)
      | some n, some high =>
        if 0xDC00 ≤ n && n ≤ 0xDFFF then
          let point := 0x10000 + (high - 0xD800) * 0x400 + (n - 0xDC00)
          s.goOn (.string (reversedBytes point ++ bytes) readable .none)
        else
          s.goOn (.string bytes false .none)
      | some n, none =>
        if 0xD800 ≤ n && n ≤ 0xDBFF then s.goOn (.string bytes readable (.pair n))
        else if 0xDC00 ≤ n && n ≤ 0xDFFF then s.goOn (.string bytes false .none)
        else s.goOn (.string (reversedBytes n ++ bytes) readable .none)

/-- Where a value breaks off that has begun as the word for the given value. -/
def tornWord : Reading → Torn
  | .null => .null
  | _ => .word

/-- Takes one byte. -/
def step (s : Scanner) (b : UInt8) : Scanner :=
  let c := Char.ofNat b.toNat
  match s.scanning with
  | .stopped => s
  | .between => s.begin c
  | .word next rest value =>
    if c = next then
      match rest with
      | [] => s.emit (.scalar value)
      | next :: rest => s.goOn (.word next rest value)
    else
      s.stop (.broken (tornWord value) .malformed .malformed)
  | .number part literal =>
    match part.next? c with
    | some next => s.goOn (.number next (literal.add next c))
    | none =>
      if part.complete && !(part == .zero && c.isDigit) then
        (s.emit (.scalar literal.value)).begin c
      else
        s.stop (.broken .word .malformed .malformed)
  | .string bytes readable escape => s.stepString bytes readable escape b

/-- The tokens when the text ends here. A reader meets the end of the text inside an
unfinished number, but one that skips finds the number malformed. -/
def finish (s : Scanner) : List Token :=
  let last : List Token := match s.scanning with
    | .between | .stopped => []
    | .word _ _ value => [.broken (tornWord value) .truncated .truncated]
    | .number part literal =>
      if part.complete then [.scalar literal.value]
      else [.broken .word .truncated .malformed]
    | .string _ readable _ =>
      [.broken .text (if readable then .truncated else .malformed) .truncated]
  (last ++ s.found).reverse

end Scanner

/-- The tokens of a text. -/
def tokens (bytes : List UInt8) : List Token :=
  (bytes.foldl Scanner.step ⟨[], .between⟩).finish

end Json

end Dialogue
