import Catalog.Decimal.Reader

/-!
# Texts and keys of TOML

What stands between values, and the four ways to quote a text: in double quotes with escapes or in
single quotes without them, on one line or between three quotes on several. Keys are texts on one
line, for which quotes are only needed around unusual characters.

## Main definitions

* `takeLineEnd`, `skipLines`: blanks, comments and ends of lines
* `takeText`: a quoted text
* `takeKey`: a key by its parts
-/

namespace Catalog.Toml

/-- Whether a character is a blank within a line. -/
def isSpace (c : Char) : Bool :=
  c == ' ' || c == '\t'

/-- The text behind blanks. -/
def skipSpace (s : List Char) : List Char :=
  s.dropWhile isSpace

/-- Whether a character may stand in a line: no control character but the tab may. -/
def isPlain (c : Char) : Bool :=
  c == '\t' || (0x20 ≤ c.toNat && c != '\x7f')

/-- The text behind the end of a line. -/
def takeNewline : List Char → Option (List Char)
  | '\n' :: r => some r
  | '\r' :: '\n' :: r => some r
  | _ => none

/-- The text behind a comment. -/
def skipComment : List Char → List Char
  | '#' :: r => r.dropWhile isPlain
  | r => r

/-- The text behind the end of a line, or of all lines, before which there may be a comment. -/
def takeLineEnd (s : List Char) : Option (List Char) :=
  match skipComment (skipSpace s) with
  | [] => some []
  | r => takeNewline r

/-- The text behind blanks and ends of lines. -/
def skipBlankLines : List Char → List Char
  | ' ' :: r => skipBlankLines r
  | '\t' :: r => skipBlankLines r
  | '\n' :: r => skipBlankLines r
  | '\r' :: '\n' :: r => skipBlankLines r
  | r => r

/-- The text behind blanks, comments and ends of lines. -/
def skipLines : Nat → List Char → List Char
  | 0, s => s
  | n + 1, s =>
    match skipBlankLines s with
    | '#' :: r => skipLines n (r.dropWhile isPlain)
    | r => r

/-- The character of so many hexadecimal digits. -/
def takeCodePoint (count : Nat) (s : List Char) : Option (Char × List Char) := do
  let digits := s.take count
  if digits.length < count then none
  else
    let code := (← digits.mapM hexValue?).foldl (fun n d => 16 * n + d) 0
    if code.isValidChar then return (Char.ofNat code, s.drop count) else none

/-- The character that is escaped behind a backslash. -/
def takeEscape : List Char → Option (Char × List Char)
  | 'b' :: r => some ('\x08', r)
  | 't' :: r => some ('\t', r)
  | 'n' :: r => some ('\n', r)
  | 'f' :: r => some ('\x0c', r)
  | 'r' :: r => some ('\r', r)
  | '"' :: r => some ('"', r)
  | '\\' :: r => some ('\\', r)
  | 'u' :: r => takeCodePoint 4 r
  | 'U' :: r => takeCodePoint 8 r
  | _ => none

/-- The characters of a text in double quotes behind the first of them. -/
def takeBasic : Nat → List Char → Option (List Char × List Char)
  | 0, _ => none
  | n + 1, s =>
    match s with
    | '"' :: r => some ([], r)
    | '\\' :: r =>
      (takeEscape r).bind fun (c, r) => (takeBasic n r).map fun (t, r) => (c :: t, r)
    | c :: r => if isPlain c then (takeBasic n r).map fun (t, r) => (c :: t, r) else none
    | [] => none

/-- The characters of a text in single quotes behind the first of them. -/
def takeLiteral (s : List Char) : Option (List Char × List Char) :=
  let body := s.takeWhile fun c => c != '\'' && isPlain c
  match s.drop body.length with
  | '\'' :: r => some (body, r)
  | _ => none

/-- The characters of a text between three quotes, behind the first three. One or two quotes may
stand anywhere in it, also before the last three. In double quotes a backslash at the end of a line
takes the blanks and the ends of lines behind it away. -/
def takeSpread (quote : Char) : Nat → List Char → Option (List Char × List Char)
  | 0, _ => none
  | n + 1, s =>
    let quotes := (s.takeWhile (· == quote)).length
    if 3 ≤ quotes then
      some (List.replicate (min quotes 5 - 3) quote, s.drop (min quotes 5))
    else
      match takeNewline s, s with
      | some r, _ => (takeSpread quote n r).map fun (t, r) => ('\n' :: t, r)
      | none, c :: r =>
        if c == '\\' && quote == '"' then
          match takeNewline (skipSpace r) with
          | some r => takeSpread quote n (skipBlankLines r)
          | none =>
            (takeEscape r).bind fun (c, r) => (takeSpread quote n r).map fun (t, r) => (c :: t, r)
        else if isPlain c then (takeSpread quote n r).map fun (t, r) => (c :: t, r)
        else none
      | none, [] => none

/-- A text between three quotes, behind the first three; a line that ends there is left out. -/
def takeSpreadText (quote : Char) (s : List Char) : Option (List Char × List Char) :=
  takeSpread quote (s.length + 1) ((takeNewline s).getD s)

/-- A quoted text. -/
def takeText : List Char → Option (String × List Char)
  | '"' :: '"' :: '"' :: r => (takeSpreadText '"' r).map fun (t, r) => (String.ofList t, r)
  | '"' :: r => (takeBasic (r.length + 1) r).map fun (t, r) => (String.ofList t, r)
  | '\'' :: '\'' :: '\'' :: r => (takeSpreadText '\'' r).map fun (t, r) => (String.ofList t, r)
  | '\'' :: r => (takeLiteral r).map fun (t, r) => (String.ofList t, r)
  | _ => none

/-- Whether a character may stand in a key without quotes. -/
def isKeyChar (c : Char) : Bool :=
  c.isAlphanum || c == '_' || c == '-'

/-- A part of a key. -/
def takeKeyPart (s : List Char) : Option (List Char × List Char) :=
  match s with
  | '"' :: r => takeBasic (r.length + 1) r
  | '\'' :: r => takeLiteral r
  | _ =>
    let key := s.takeWhile isKeyChar
    if key.isEmpty then none else some (key, s.drop key.length)

/-- How deep values may be nested, and how many parts a key may have: less than that. -/
def nestingLimit : Nat := 80

/-- A key: the parts before the last one, and the last one. There are points between them. -/
def takeParts : Nat → List Char → Option ((List String × String) × List Char)
  | 0, _ => none
  | n + 1, s => do
    let (part, r) ← takeKeyPart (skipSpace s)
    match skipSpace r with
    | '.' :: t =>
      let ((path, key), t) ← takeParts n t
      return ((String.ofList part :: path, key), t)
    | t => return (([], String.ofList part), t)

/-- A key with less parts than the limit. -/
def takeKey (s : List Char) : Option ((List String × String) × List Char) :=
  takeParts (nestingLimit - 1) s

end Catalog.Toml
