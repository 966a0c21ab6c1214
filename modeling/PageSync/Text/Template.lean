import PageSync.Decimal.Rounded
import PageSync.Json.Literal
import PageSync.Text.Numeral

/-!
# Text/Template — messages with places for arguments

A place is a percent sign, an optional name in parentheses, flags, a width, a precision and a letter
that says how the argument is written. Places with names take their arguments from one object, the
others take them from a list, which they have to use up.
-/

namespace PageSync.Text.Template

/-- Why a message cannot be made. -/
inductive Fault where
  /-- An argument is missing, left over, or not of the kind that its place needs. -/
  | argument
  /-- A number is out of range. -/
  | overflow
  | incomplete
  | incompleteName
  | widthTooBig
  | precisionTooBig
  | unsupported (c : Char) (index : Nat)
  | notANumber
  | missing (name : String)
  deriving DecidableEq, Repr

/-- The wording of a fault in the message itself or in a value. -/
def Fault.message? : Fault → Option String
  | .argument | .overflow => none
  | .incomplete => some "incomplete format"
  | .incompleteName => some "incomplete format key"
  | .widthTooBig => some "width too big"
  | .precisionTooBig => some "precision too big"
  | .unsupported c index =>
    let shown := if 31 ≤ c.toNat ∧ c.toNat < 127 then c else '?'
    some ("unsupported format character '" ++ String.singleton shown ++ "' (0x" ++
      String.ofList (Nat.toDigits 16 c.toNat) ++ ") at index " ++
      String.ofList (Json.intText index))
  | .notANumber => some "cannot convert float NaN to integer"
  | .missing name => some (Text.quoted name)

/-- The arguments that are left: a list, or an object that its places name and the argument that is
pending for a place without a name. -/
inductive Arguments where
  | list (args : List Json)
  | object (fields : Fields) (pending : Option Json)

/-- The arguments of a message: a single object that is not empty stands for its entries. -/
def Arguments.of : List Json → Arguments
  | [.obj (f :: fs)] => .object (f :: fs) (some (.obj (f :: fs)))
  | args => .list args

/-- How an argument is written. -/
structure Spec where
  left : Bool
  plus : Bool
  blank : Bool
  alternate : Bool
  zero : Bool
  width : Nat
  precision : Option Nat

/-- No flags. -/
def Spec.plain : Spec :=
  ⟨false, false, false, false, false, 0, none⟩

/-- Set the flag of a character. -/
def Spec.flag? (s : Spec) (c : Char) : Option Spec :=
  if c = '-' then some { s with left := true }
  else if c = '+' then some { s with plus := true }
  else if c = ' ' then some { s with blank := true }
  else if c = '#' then some { s with alternate := true }
  else if c = '0' then some { s with zero := true }
  else none

/-- Read flags. -/
def flagsOf (s : Spec) : List Char → Spec × List Char
  | [] => (s, [])
  | c :: cs =>
    match s.flag? c with
    | some s => flagsOf s cs
    | none => (s, c :: cs)

/-! ## Arguments as text -/

/-- A text padded to the width of its place. -/
def padded (s : Spec) (cs : List Char) : List Char :=
  let fill := List.replicate (s.width - cs.length) ' '
  if s.left then cs ++ fill else fill ++ cs

/-- A number padded to the width of its place: zeros stand between its sign and its digits. -/
def paddedNumber (s : Spec) (negative : Bool) (mark digits : List Char) : List Char :=
  let sign := if negative then ['-'] else if s.plus then ['+'] else if s.blank then [' '] else []
  let front := sign ++ mark
  let zeros := if s.zero && !s.left then s.width - front.length - digits.length else 0
  padded s (front ++ List.replicate zeros '0' ++ digits)

/-- A text in ASCII: other characters are written by their code points. -/
def asciiText (cs : List Char) : List Char :=
  cs.flatMap fun c => if c.toNat < 128 then [c] else codeEscape c

/-- A whole number, or what keeps a value from being one. Only decimal places drop a fraction. -/
def wholeNumber (decimal : Bool) : Json → Except Fault Int
  | .int n => .ok n
  | .bool b => .ok (if b then 1 else 0)
  | .float x =>
    if !decimal then .error .argument
    else
      match x with
      | .nan => .error .notANumber
      | .infinite _ => .error .overflow
      | .finite negative m e =>
        let (num, den) := Binary64.ratio m e
        .ok (if negative then -(num / den : Nat) else (num / den : Nat))
  | _ => .error .argument

/-- A floating-point number. -/
def floatNumber : Json → Except Fault Binary64
  | .float x => .ok x
  | .bool b => .ok (.ofRatio false (if b then 1 else 0) 1)
  | .int n =>
    match Binary64.ofRatio (n < 0) n.natAbs 1 with
    | .infinite _ => .error .overflow
    | x => .ok x
  | _ => .error .argument

/-- A whole number in its place. -/
def wholeText (s : Spec) (c : Char) (v : Json) : Except Fault (List Char) := do
  let decimal := !(c == 'o' || c == 'x' || c == 'X')
  let n ← wholeNumber decimal v
  let base := if decimal then 10 else if c == 'o' then 8 else 16
  let digits := Decimal.padZeros (s.precision.getD 0) (Nat.toDigits base n.natAbs)
  let upper (cs : List Char) := if c == 'X' then cs.map Char.toUpper else cs
  let mark := if s.alternate && !decimal then upper ['0', if c == 'o' then 'o' else 'x'] else []
  return paddedNumber s (n < 0) mark (upper digits)

/-- A floating-point number in its place. -/
def floatText (s : Spec) (c : Char) (v : Json) : Except Fault (List Char) := do
  let x ← floatNumber v
  let places := s.precision.getD 6
  let write (num den : Nat) : List Char :=
    if c == 'f' || c == 'F' then Decimal.fixed s.alternate places num den
    else if c == 'e' || c == 'E' then Decimal.scientific s.alternate places num den
    else Decimal.general s.alternate places num den
  let (negative, digits) := match x with
    | .nan => (false, "nan".toList)
    | .infinite negative => (negative, "inf".toList)
    | .finite negative m e =>
      let (num, den) := Binary64.ratio m e
      (negative, write num den)
  return paddedNumber s negative [] (if c.isUpper then digits.map Char.toUpper else digits)

/-- A character in its place. -/
def charText (s : Spec) : Json → Except Fault (List Char)
  | .str t => if t.length = 1 then .ok (padded s t.toList) else .error .argument
  | .int n =>
    if 0 ≤ n ∧ n < 0x110000 then .ok (padded s [Char.ofNat n.toNat]) else .error .overflow
  | .bool b => .ok (padded s [Char.ofNat (if b then 1 else 0)])
  | _ => .error .argument

/-- A text in its place. -/
def stringText (s : Spec) (cs : List Char) : List Char :=
  padded s (match s.precision with
    | some n => cs.take n
    | none => cs)

/-- An argument in its place; `index` is the place of the letter in the message. -/
def argumentText (s : Spec) (c : Char) (index : Nat) (v : Json) : Except Fault (List Char) :=
  if c = 's' then .ok (stringText s v.display.toList)
  else if c = 'r' then .ok (stringText s v.literal.toList)
  else if c = 'a' then .ok (stringText s (asciiText v.literal.toList))
  else if "diuoxX".toList.contains c then wholeText s c v
  else if "eEfFgG".toList.contains c then floatText s c v
  else if c = 'c' then charText s v
  else .error (.unsupported c index)

/-! ## Places -/

/-- The next argument and those that are left. -/
def next : Arguments → Except Fault (Json × Arguments)
  | .list (v :: rest) => .ok (v, .list rest)
  | .object fields (some v) => .ok (v, .object fields none)
  | _ => .error .argument

/-- The name up to the parenthesis that closes it. -/
def nameFrom : Nat → List Char → List Char → Option (List Char × List Char)
  | _, _, [] => none
  | depth, acc, c :: cs =>
    if c = ')' then
      match depth with
      | 0 => some (acc.reverse, cs)
      | depth + 1 => nameFrom depth (c :: acc) cs
    else nameFrom (if c = '(' then depth + 1 else depth) (c :: acc) cs

/-- The largest width. -/
def widthLimit : Nat :=
  twoPow 63 - 1

/-- The largest precision. -/
def precisionLimit : Nat :=
  twoPow 31 - 1

/-- A size: digits, or a star for the next argument. -/
def sizeOf (limit : Nat) (tooBig : Fault) (args : Arguments) (cs : List Char) :
    Except Fault (Option Int × Arguments × List Char) :=
  match cs with
  | '*' :: rest => do
    let (v, args) ← next args
    match v with
    | .int n => if n.natAbs > limit then throw .overflow else return (some n, args, rest)
    | .bool b => return (some (if b then 1 else 0), args, rest)
    | _ => throw .argument
  | _ =>
    let (digits, rest) := cs.span Char.isDigit
    if digits.isEmpty then .ok (none, args, rest)
    else if decimalValue digits > limit then .error tooBig
    else .ok (some (decimalValue digits), args, rest)

/-- The name of a place, if it has one: its argument becomes the pending one. -/
def named (args : Arguments) (cs : List Char) : Except Fault (Arguments × List Char) :=
  match cs, args with
  | '(' :: rest, .object fields _ =>
    match nameFrom 0 [] rest with
    | none => .error .incompleteName
    | some (name, rest) =>
      match fields.lookup (String.ofList name) with
      | some v => .ok (.object fields (some v), rest)
      | none => .error (.missing (String.ofList name))
  | '(' :: _, .list _ => .error .argument
  | cs, args => .ok (args, cs)

/-- A length mark, which says nothing. -/
def skipLengthMark : List Char → List Char
  | c :: rest => if c = 'h' || c = 'l' || c = 'L' then rest else c :: rest
  | [] => []

/-- Read a place after its percent sign; `length` is the length of the message. -/
def place (length : Nat) (args : Arguments) (cs : List Char) :
    Except Fault (List Char × Arguments × List Char) := do
  let (args, cs) ← named args cs
  let (spec, cs) := flagsOf .plain cs
  let (width, args, cs) ← sizeOf widthLimit .widthTooBig args cs
  let width := width.getD 0
  let spec := { spec with width := width.natAbs, left := spec.left || width < 0 }
  let (spec, args, cs) ← match cs with
    | '.' :: rest => do
      let (precision, args, rest) ← sizeOf precisionLimit .precisionTooBig args rest
      pure ({ spec with precision := some (precision.getD 0).toNat }, args, rest)
    | cs => pure (spec, args, cs)
  match skipLengthMark cs with
  | [] => throw .incomplete
  | c :: rest =>
    let (v, args) ← next args
    return (← argumentText spec c (length - rest.length - 1) v, args, rest)

/-- Fill the places of a message; `fuel` bounds their number. -/
def fillFrom (length : Nat) : Nat → Arguments → List Char → Except Fault (List Char)
  | fuel + 1, args, '%' :: '%' :: cs => do return '%' :: (← fillFrom length fuel args cs)
  | fuel + 1, args, '%' :: cs => do
    let (text, args, rest) ← place length args cs
    return text ++ (← fillFrom length fuel args rest)
  | fuel + 1, args, c :: cs => do return c :: (← fillFrom length fuel args cs)
  | _, .list (_ :: _), [] => .error .argument
  | _, _, cs => .ok cs

/-- **A message with its places filled**; without arguments it is taken as it is. -/
def fill (message : String) (args : List Json) : Except Fault String :=
  if args.isEmpty then .ok message
  else
    let cs := message.toList
    (fillFrom cs.length (cs.length + 1) (.of args) cs).map String.ofList

end PageSync.Text.Template
