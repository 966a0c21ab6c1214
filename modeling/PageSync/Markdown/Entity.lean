import PageSync.Json.Reader
import PageSync.Markdown.EntityTable
import PageSync.Text.Numeral

/-!
# Markdown/Entity — character references

A reference is `&name;`, `&#n;` with at most seven digits, or `&#x…;`. A name that is not known
may begin with a known one, and then only that part is replaced.
-/

namespace PageSync.Markdown

/-- The number that hexadecimal digits write. -/
def hexNumber (ds : List Char) : Nat :=
  ds.foldl (fun n d => n * 16 + (Json.hexValue? d).getD 0) 0

/-- The entry of a word: a name and its characters. -/
def entityOfWord (word : List Char) : List Char × List Char :=
  let (name, codes) := word.span (· ≠ '=')
  (name, (Text.splitWhere (· == '+') (codes.drop 1)).map fun ds => Char.ofNat (hexNumber ds))

/-- The characters of a name. -/
def entityNamed? (name : List Char) : Option (List Char) :=
  entityLines.findSome? fun line =>
    ((Text.splitWhere (· == ' ') line.toList).map entityOfWord).lookup name

/-- The characters that the code points of an old code page stand for. -/
def oldCodePage : List (Nat × Nat) :=
  [(0x00, 0xFFFD), (0x0D, 0x0D), (0x80, 0x20AC), (0x81, 0x81), (0x82, 0x201A), (0x83, 0x192),
    (0x84, 0x201E), (0x85, 0x2026), (0x86, 0x2020), (0x87, 0x2021), (0x88, 0x2C6), (0x89, 0x2030),
    (0x8A, 0x160), (0x8B, 0x2039), (0x8C, 0x152), (0x8D, 0x8D), (0x8E, 0x17D), (0x8F, 0x8F),
    (0x90, 0x90), (0x91, 0x2018), (0x92, 0x2019), (0x93, 0x201C), (0x94, 0x201D), (0x95, 0x2022),
    (0x96, 0x2013), (0x97, 0x2014), (0x98, 0x2DC), (0x99, 0x2122), (0x9A, 0x161), (0x9B, 0x203A),
    (0x9C, 0x153), (0x9D, 0x9D), (0x9E, 0x17E), (0x9F, 0x178)]

/-- Whether a code point stands for no character at all. -/
def isNoncharacter (n : Nat) : Bool :=
  (0x1 ≤ n && n ≤ 0x8) || (0xE ≤ n && n ≤ 0x1F) || (0x7F ≤ n && n ≤ 0x9F) ||
    (0xFDD0 ≤ n && n ≤ 0xFDEF) || n == 0xB || (n % 0x10000 ≥ 0xFFFE && n ≤ 0x10FFFF)

/-- The characters of a code point. -/
def codePointChars (n : Nat) : List Char :=
  match oldCodePage.lookup n with
  | some m => [Char.ofNat m]
  | none =>
    if (0xD800 ≤ n && n ≤ 0xDFFF) || n > 0x10FFFF then [Char.ofNat 0xFFFD]
    else if isNoncharacter n then []
    else [Char.ofNat n]

/-- The longest known name, of two characters or more, with which a name begins. -/
def longestEntity? (name : List Char) : Nat → Option (List Char)
  | 0 => none
  | n + 1 =>
    if n + 1 < 2 then none
    else
      match entityNamed? (name.take (n + 1)) with
      | some cs => some (cs ++ name.drop (n + 1))
      | none => longestEntity? name n

/-- The characters of a name with its semicolon. -/
def namedChars (name : List Char) : List Char :=
  match entityNamed? name with
  | some cs => cs
  | none => (longestEntity? name (name.length - 1)).getD ('&' :: name)

/-- Whether a character can be part of a name. -/
def isNameChar (c : Char) : Bool :=
  !(c == '\t' || c == '\n' || c.toNat == 12 || c == ' ' || c == '<' || c == '&' || c == '#' ||
    c == ';')

/-- The characters of a reference whose ampersand has been read, and the rest of the text. -/
def reference? (cs : List Char) : Option (List Char × List Char) :=
  match cs with
  | '#' :: x :: rest =>
    if x = 'x' || x = 'X' then
      match rest.span fun c => (Json.hexValue? c).isSome with
      | (ds@(_ :: _), ';' :: rest) => some (codePointChars (hexNumber ds), rest)
      | _ => none
    else
      match (x :: rest).span Char.isDigit with
      | (ds@(_ :: _), ';' :: rest) =>
        if ds.length ≤ 7 then some (codePointChars (Text.decimalValue ds), rest) else none
      | _ => none
  | _ =>
    match cs.span isNameChar with
    | (name@(_ :: _), ';' :: rest) =>
      if name.length ≤ 32 then some (namedChars (name ++ [';']), rest) else none
    | _ => none

/-- A text with its references replaced; `fuel` bounds their number. -/
def decodeFrom : Nat → List Char → List Char
  | fuel + 1, '&' :: rest =>
    match reference? rest with
    | some (cs, rest) => cs ++ decodeFrom fuel rest
    | none => '&' :: decodeFrom fuel rest
  | fuel + 1, c :: rest => c :: decodeFrom fuel rest
  | _, cs => cs

/-- **A text with its character references replaced.** -/
def decodeEntities (cs : List Char) : List Char :=
  decodeFrom cs.length cs

end PageSync.Markdown
