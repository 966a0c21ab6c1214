import PageSync.Json.Basic

/-!
# Json/Printer — JSON values as text

A `Style` says how items are separated, whether a line is begun for each item, and whether
characters beyond ASCII are escaped. An escaped character is written by its 16-bit units, so that a
character beyond the basic plane takes two escapes.
-/

namespace PageSync.Json

/-- How a value is laid out. -/
structure Style where
  /-- Escape everything beyond the printable ASCII characters. -/
  ascii : Bool
  /-- What separates a name from its value. -/
  colon : String
  /-- What separates two items on one line. -/
  comma : String
  /-- The blanks by which each level is indented, when each item has a line of its own. -/
  indent : Option Nat

/-- No blanks, characters as they are: the form in which bodies are sent. -/
def Style.compact : Style := ⟨false, ":", ",", none⟩

/-- One line of ASCII with a blank after each comma and colon: the form of a log line. -/
def Style.line : Style := ⟨true, ": ", ", ", none⟩

/-- One item a line, indented by two, in ASCII. -/
def Style.block : Style := ⟨true, ": ", ",", some 2⟩

/-- One item a line, indented by two, characters as they are. -/
def Style.unicodeBlock : Style := ⟨false, ": ", ",", some 2⟩

/-- A hexadecimal digit. -/
def hexDigit (n : Nat) : Char :=
  if n < 10 then Char.ofNat (48 + n) else Char.ofNat (87 + n)

/-- The escape of one 16-bit unit. -/
def unitEscape (u : Nat) : List Char :=
  ['\\', 'u', hexDigit (u / 4096 % 16), hexDigit (u / 256 % 16), hexDigit (u / 16 % 16),
    hexDigit (u % 16)]

/-- The escape of a character by its one or two 16-bit units. -/
def unicodeEscape (c : Char) : List Char :=
  let n := c.toNat
  if n < 0x10000 then unitEscape n
  else unitEscape (0xD800 + (n - 0x10000) / 0x400) ++ unitEscape (0xDC00 + (n - 0x10000) % 0x400)

/-- A character as it stands inside a quoted string. -/
def escapeChar (ascii : Bool) (c : Char) : List Char :=
  if c = '"' then ['\\', '"']
  else if c = '\\' then ['\\', '\\']
  else if c = '\n' then ['\\', 'n']
  else if c = '\r' then ['\\', 'r']
  else if c = '\t' then ['\\', 't']
  else if c.toNat = 8 then ['\\', 'b']
  else if c.toNat = 12 then ['\\', 'f']
  else if c.toNat < 32 then unicodeEscape c
  else if ascii && 127 ≤ c.toNat then unicodeEscape c
  else [c]

/-- A string in quotes. -/
def quote (ascii : Bool) (s : String) : List Char :=
  '"' :: s.toList.flatMap (escapeChar ascii) ++ ['"']

/-- A whole number in decimal digits. -/
def intText (n : Int) : List Char :=
  if n < 0 then '-' :: Nat.toDigits 10 n.natAbs else Nat.toDigits 10 n.natAbs

/-- A number has no other characters than digits and a minus. -/
theorem isDigit_or_minus_of_mem_intText {n : Int} {c : Char} (hc : c ∈ intText n) :
    c.isDigit = true ∨ c = '-' := by
  have hdigits : ∀ c ∈ Nat.toDigits 10 n.natAbs, c.isDigit = true := fun _ hc =>
    Nat.isDigit_of_mem_toDigits (by decide) (by decide) hc
  unfold intText at hc
  split at hc
  · exact (List.mem_cons.mp hc).symm.imp_left (hdigits c)
  · exact .inl (hdigits c hc)

/-- A floating-point number; the three values without digits are written as words. -/
def floatText : Binary64 → List Char
  | .nan => "NaN".toList
  | .infinite true => "-Infinity".toList
  | .infinite false => "Infinity".toList
  | x => x.text.toList

/-- What stands before each item of a container at a level. -/
def Style.lead (style : Style) (level : Nat) : List Char :=
  match style.indent with
  | some width => '\n' :: List.replicate (width * level) ' '
  | none => []

/-- Put items between brackets; an empty container has nothing between them. -/
def bracketed (style : Style) (level : Nat) (opening closing : Char) : List (List Char) → List Char
  | [] => [opening, closing]
  | items =>
    let separator := style.comma.toList ++ style.lead (level + 1)
    opening :: style.lead (level + 1) ++ separator.intercalate items ++ style.lead level ++
      [closing]

mutual

/-- The text of a value that stands at a level. -/
def write (style : Style) (level : Nat) : Json → List Char
  | .null => "null".toList
  | .bool true => "true".toList
  | .bool false => "false".toList
  | .int n => intText n
  | .float x => floatText x
  | .str s => quote style.ascii s
  | .arr items => bracketed style level '[' ']' (writeItems style (level + 1) items)
  | .obj fields => bracketed style level '\x7b' '\x7d' (writeFields style (level + 1) fields)

/-- The texts of the items of an array. -/
def writeItems (style : Style) (level : Nat) : List Json → List (List Char)
  | [] => []
  | j :: rest => write style level j :: writeItems style level rest

/-- The texts of the entries of an object. -/
def writeFields (style : Style) (level : Nat) : List (String × Json) → List (List Char)
  | [] => []
  | (k, j) :: rest =>
    (quote style.ascii k ++ style.colon.toList ++ write style level j) ::
      writeFields style level rest

end

/-- The text of a value. -/
def render (style : Style) (j : Json) : String :=
  String.ofList (write style 0 j)

end PageSync.Json
