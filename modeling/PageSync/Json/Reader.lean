import PageSync.Json.Basic

/-!
# Json/Reader — JSON text read as values

Besides the standard grammar the words `NaN`, `Infinity` and `-Infinity` are numbers. A name written
twice in an object keeps its first place and its last value. A number with neither a point nor an
exponent is a whole number of any size. The escape of half a surrogate pair that stands alone reads
as the replacement character.
-/

namespace PageSync.Json

/-- The blanks that may stand between the parts of a text. -/
def isSpace (c : Char) : Bool :=
  c == ' ' || c == '\t' || c == '\n' || c == '\r'

/-- A text without the blanks at its start. -/
def skipSpace (cs : List Char) : List Char :=
  cs.dropWhile isSpace

/-- The value of a hexadecimal digit. -/
def hexValue? (c : Char) : Option Nat :=
  let n := c.toNat
  if 48 ≤ n && n ≤ 57 then some (n - 48)
  else if 97 ≤ n && n ≤ 102 then some (n - 87)
  else if 65 ≤ n && n ≤ 70 then some (n - 55)
  else none

/-- The 16-bit unit of four hexadecimal digits. -/
def unitOf? (a b c d : Char) : Option Nat := do
  let a ← hexValue? a
  let b ← hexValue? b
  let c ← hexValue? c
  let d ← hexValue? d
  pure (a * 4096 + b * 256 + c * 16 + d)

/-- A unit that is the first half of a pair. -/
def isHighUnit (u : Nat) : Bool :=
  0xD800 ≤ u && u < 0xDC00

/-- A unit that is the second half of a pair. -/
def isLowUnit (u : Nat) : Bool :=
  0xDC00 ≤ u && u < 0xE000

/-- The character of a unit that is not part of a pair. -/
def charOfUnit (u : Nat) : Char :=
  if isHighUnit u || isLowUnit u then Char.ofNat 0xFFFD else Char.ofNat u

/-- The character of the two halves of a pair. -/
def charOfPair (high low : Nat) : Char :=
  Char.ofNat (0x10000 + (high - 0xD800) * 0x400 + (low - 0xDC00))

/-- The character that a backslash and a letter stand for. -/
def simpleEscape? (c : Char) : Option Char :=
  if c = '"' || c = '\\' || c = '/' then some c
  else if c = 'b' then some (Char.ofNat 8)
  else if c = 'f' then some (Char.ofNat 12)
  else if c = 'n' then some '\n'
  else if c = 'r' then some '\r'
  else if c = 't' then some '\t'
  else none

/-- Read a string after its opening quote; `high` is a first half that waits for the second. -/
def readQuoted (acc : List Char) (high : Option Nat) : List Char → Option (List Char × List Char)
  | [] => none
  | '\\' :: 'u' :: a :: b :: c :: d :: rest =>
    match unitOf? a b c d with
    | none => none
    | some u =>
      match high with
      | some h =>
        if isLowUnit u then readQuoted (charOfPair h u :: acc) none rest
        else if isHighUnit u then readQuoted (charOfUnit h :: acc) (some u) rest
        else readQuoted (charOfUnit u :: charOfUnit h :: acc) none rest
      | none =>
        if isHighUnit u then readQuoted acc (some u) rest
        else readQuoted (charOfUnit u :: acc) none rest
  | '\\' :: e :: rest =>
    match simpleEscape? e with
    | none => none
    | some c => readQuoted (c :: (high.map charOfUnit).toList ++ acc) none rest
  | c :: rest =>
    let acc := (high.map charOfUnit).toList ++ acc
    if c = '"' then some (acc.reverse, rest)
    else if c = '\\' || c.toNat < 32 then none
    else readQuoted (c :: acc) none rest

/-- The digits at the start of a text, and the rest. -/
def spanDigits (cs : List Char) : List Char × List Char :=
  cs.span Char.isDigit

/-- The number that ASCII digits write. -/
def natOf (ds : List Char) : Nat :=
  ds.foldl (fun n d => 10 * n + (d.toNat - 48)) 0

/-- The fraction digits after a point, when there is a point with digits after it. -/
def readFraction : List Char → Option (List Char × List Char)
  | '.' :: rest =>
    match spanDigits rest with
    | ([], _) => none
    | (ds, rest) => some (ds, rest)
  | _ => none

/-- The exponent after a mark, when there is a mark with digits after it. -/
def readExponent : List Char → Option (Int × List Char)
  | c :: rest =>
    if c = 'e' || c = 'E' then
      let (negative, rest) := match rest with
        | '-' :: rest => (true, rest)
        | '+' :: rest => (false, rest)
        | rest => (false, rest)
      match spanDigits rest with
      | ([], _) => none
      | (ds, rest) => some (if negative then -(natOf ds : Int) else natOf ds, rest)
    else none
  | [] => none

/-- A number after its sign. -/
def readUnsigned (negative : Bool) (cs : List Char) : Option (Json × List Char) :=
  let whole? : Option (List Char × List Char) := match cs with
    | '0' :: rest => some (['0'], rest)
    | _ => match spanDigits cs with
      | ([], _) => none
      | found => some found
  whole?.map fun (whole, rest) =>
    match readFraction rest, readExponent ((readFraction rest).elim rest (·.2)) with
    | none, none =>
      (.int (if negative then -(natOf whole : Int) else natOf whole), rest)
    | fraction?, exponent? =>
      let fraction := fraction?.elim [] (·.1)
      let exponent := exponent?.elim 0 (·.1)
      let rest := exponent?.elim (fraction?.elim rest (·.2)) (·.2)
      (.float (.ofDecimal negative (natOf (whole ++ fraction)) (exponent - fraction.length)), rest)

/-- What is left of a text after a word that it starts with. -/
def afterWord? (word : String) (cs : List Char) : Option (List Char) :=
  if word.toList.isPrefixOf cs then some (cs.drop word.length) else none

/-- The words that stand for values. -/
def wordValues : List (String × Json) :=
  [("null", .null), ("true", .bool true), ("false", .bool false), ("NaN", .float .nan),
    ("Infinity", .float (.infinite false)), ("-Infinity", .float (.infinite true))]

/-- A word that stands for a value. -/
def readWord (cs : List Char) : Option (Json × List Char) :=
  wordValues.findSome? fun (word, j) => (afterWord? word cs).map (j, ·)

/-- A number, with its sign. -/
def readNumber : List Char → Option (Json × List Char)
  | '-' :: rest => readUnsigned true rest
  | cs => readUnsigned false cs

mutual

/-- Read a value; `fuel` bounds the calls, each of which takes a character or starts a value. -/
def readValue : Nat → List Char → Option (Json × List Char)
  | 0, _ => none
  | fuel + 1, cs =>
    match cs with
    | '"' :: rest => (readQuoted [] none rest).map fun (s, rest) => (.str (String.ofList s), rest)
    | '[' :: rest =>
      match skipSpace rest with
      | ']' :: rest => some (.arr [], rest)
      | rest => (readItems fuel [] rest).map fun (items, rest) => (.arr items, rest)
    | '\x7b' :: rest =>
      match skipSpace rest with
      | '\x7d' :: rest => some (.obj [], rest)
      | rest => (readFields fuel [] rest).map fun (fields, rest) =>
          (.obj (Fields.ofEntries fields), rest)
    | cs =>
      match readWord cs with
      | some found => some found
      | none => readNumber cs

/-- Read the items of an array up to its closing bracket. -/
def readItems : Nat → List Json → List Char → Option (List Json × List Char)
  | 0, _, _ => none
  | fuel + 1, acc, cs =>
    match readValue fuel cs with
    | none => none
    | some (j, rest) =>
      match skipSpace rest with
      | ',' :: rest => readItems fuel (j :: acc) (skipSpace rest)
      | ']' :: rest => some ((j :: acc).reverse, rest)
      | _ => none

/-- Read the entries of an object up to its closing brace. -/
def readFields : Nat → List (String × Json) → List Char →
    Option (List (String × Json) × List Char)
  | 0, _, _ => none
  | fuel + 1, acc, cs =>
    match cs with
    | '"' :: rest =>
      match readQuoted [] none rest with
      | none => none
      | some (name, rest) =>
        match skipSpace rest with
        | ':' :: rest =>
          match readValue fuel (skipSpace rest) with
          | none => none
          | some (j, rest) =>
            let entry := (String.ofList name, j)
            match skipSpace rest with
            | ',' :: rest => readFields fuel (entry :: acc) (skipSpace rest)
            | '\x7d' :: rest => some ((entry :: acc).reverse, rest)
            | _ => none
        | _ => none
    | _ => none

end

/-- **Read a whole text as one value**, blanks around it allowed. -/
def read? (text : String) : Option Json :=
  let cs := skipSpace text.toList
  match readValue (2 * cs.length + 2) cs with
  | some (j, rest) => if (skipSpace rest).isEmpty then some j else none
  | none => none

end PageSync.Json
