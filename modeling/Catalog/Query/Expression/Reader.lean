import Catalog.Decimal.Reader
import Catalog.Query.Expression
import Catalog.Text.Blank

/-!
# Reading search expressions

The grammar of search expressions. Readers take a part from the front of a text and give the rest
back; nested parts are read with a bound on their number that the length of the text makes large
enough.

## Main definitions

* `Expression.read?`: the expression of a text
-/

namespace Catalog.Expression

/-- The blanks between the parts of an expression. -/
def isGap (c : Char) : Bool :=
  c == ' ' || c == '\t' || c == '\r' || c == '\n'

/-- The text behind the blanks in front. -/
def skipGap (s : List Char) : List Char :=
  s.dropWhile isGap

/-- The text behind the blanks in front, of which there has to be one. -/
def takeGap (s : List Char) : Option (List Char) :=
  match s with
  | c :: r => if isGap c then some (skipGap r) else none
  | [] => none

/-- The text behind a fixed beginning. -/
def takeTag (tag : String) (s : List Char) : Option (List Char) :=
  if tag.toList.isPrefixOf s then some (s.drop tag.length) else none

/-- Characters that a name of a field only has behind a backslash. -/
def nameSpecials : List Char :=
  ['+', '^', '\x60', ':', '{', '}', '"', '\'', '[', ']', '(', ')', '!', '\\', '*', ' ']

/-- Characters that a word only has behind a backslash. -/
def wordSpecials : List Char :=
  ['^', '\x60', ':', '{', '}', '"', '\'', '[', ']', '(', ')', '\\']

/-- Characters that end a boundary of a range. -/
def boundarySpecials : List Char :=
  ['{', '}', '"', '[', ']', '(', ')']

/-- The characters of a name behind its first one. -/
def nameRest : List Char → List Char × List Char
  | '\\' :: c :: r =>
    if nameSpecials.contains c then let (name, rest) := nameRest r; (c :: name, rest)
    else let (name, rest) := nameRest (c :: r); ('\\' :: name, rest)
  | ['\\'] => (['\\'], [])
  | c :: r =>
    if nameSpecials.contains c then ([], c :: r)
    else let (name, rest) := nameRest r; (c :: name, rest)
  | [] => ([], [])

/-- The name of a field and the colon behind it. -/
def takeFieldName (s : List Char) : Option (String × List Char) := do
  let (first, r) ← match s with
    | '\\' :: c :: r => if nameSpecials.contains c then some (c, r) else none
    | c :: r => if nameSpecials.contains c || c == '-' then none else some (c, r)
    | [] => none
  let (name, r) := nameRest r
  let r ← takeTag ":" (skipGap r)
  return (String.ofList (first :: name), skipGap r)

/-- The characters of a word, backslashes included. -/
def wordRest : List Char → List Char × List Char
  | '\\' :: c :: r => let (word, rest) := wordRest r; ('\\' :: c :: word, rest)
  | c :: r =>
    if isBlank c || wordSpecials.contains c then ([], c :: r)
    else let (word, rest) := wordRest r; (c :: word, rest)
  | [] => ([], [])

/-- A word without the backslashes that it needs; others stand for themselves. -/
def unescapeWord : List Char → List Char
  | '\\' :: c :: r =>
    if isBlank c || wordSpecials.contains c || c == '-' then c :: unescapeWord r
    else '\\' :: c :: unescapeWord r
  | ['\\'] => []
  | c :: r => c :: unescapeWord r
  | [] => []

/-- Words that are no words of a text. -/
def reservedWords : List String := ["OR", "AND", "NOT", "IN"]

/-- A word. A minus sign in front would be a sign of its own. -/
def takeWord (s : List Char) : Option (String × List Char) :=
  if s.head? == some '-' then none
  else
    let (word, r) := wordRest s
    if word.isEmpty || reservedWords.contains (String.ofList word) then none
    else some (String.ofList (unescapeWord word), r)

/-- Characters up to a closing quote; a backslash takes the meaning from the one after it. -/
def takeQuoted (quote : Char) : List Char → Option (List Char × List Char)
  | '\\' :: c :: r => (takeQuoted quote r).map fun p => (c :: p.1, p.2)
  | c :: r =>
    if c == quote then some ([], r) else (takeQuoted quote r).map fun p => (c :: p.1, p.2)
  | [] => none

/-- Digits and perhaps a point with more digits. -/
def takeDecimal (s : List Char) : Option (List Char × List Char) :=
  let whole := s.takeWhile isAsciiDigit
  let r := s.drop whole.length
  if whole.isEmpty then none
  else match r with
    | '.' :: t =>
      let fraction := t.takeWhile isAsciiDigit
      if fraction.isEmpty then some (whole, r)
      else some (whole ++ '.' :: fraction, t.drop fraction.length)
    | _ => some (whole, r)

/-- A number with a minus sign. -/
def takeNegative (s : List Char) : Option (String × List Char) :=
  match s with
  | '-' :: r => (takeDecimal r).map fun p => (String.ofList ('-' :: p.1), p.2)
  | _ => none

/-- A word, a phrase in quotes or a negative number. -/
def takeText (s : List Char) : Option (String × List Char) :=
  takeNegative s <|>
  (match s with
    | '\'' :: r => (takeQuoted '\'' r).map fun p => (String.ofList p.1, p.2)
    | '"' :: r => (takeQuoted '"' r).map fun p => (String.ofList p.1, p.2)
    | _ => none) <|>
  takeWord s

/-- How far a phrase may drift apart, or a star for one that may go on. -/
def takeSlop (s : List Char) : (Nat × Bool) × List Char :=
  match s with
  | '*' :: r => ((0, true), r)
  | '~' :: r =>
    let digits := r.takeWhile isAsciiDigit
    if digits.isEmpty || 2 ^ (32 : Nat) ≤ digitsValue digits then ((0, false), s)
    else ((digitsValue digits, false), r.drop digits.length)
  | _ => ((0, false), s)

/-- A word or a phrase with what may stand behind it. -/
def takePhrase (s : List Char) : Option (Expression × List Char) := do
  let (text, r) ← takeText s
  let ((slop, isOpen), r) := takeSlop r
  return (.literal none text slop isOpen, r)

/-- A boundary of a range. -/
def takeBoundary (s : List Char) : Option (String × List Char) :=
  takeNegative s <|>
  match s with
  | c :: r =>
    if isBlank c || c == '\x60' || boundarySpecials.contains c then none
    else
      let rest := r.takeWhile fun c => !(isBlank c || boundarySpecials.contains c)
      some (String.ofList (c :: rest), r.drop rest.length)
  | [] => none

/-- An end of a range; a star stands for none. -/
def writtenEnd (isOpen : Bool) (s : String) : WrittenEnd :=
  if s == "*" then .unbounded else if isOpen then .excluded s else .included s

/-- The signs of comparison and the ranges that they make of a boundary. -/
def comparisons : List (String × (String → WrittenEnd × WrittenEnd)) := [
  (">=", fun b => (writtenEnd false b, .unbounded)),
  ("<=", fun b => (.unbounded, writtenEnd false b)),
  ("<", fun b => (.unbounded, writtenEnd true b)),
  (">", fun b => (writtenEnd true b, .unbounded))]

/-- A range by comparison with one boundary. -/
def takeComparison (s : List Char) : Option (Expression × List Char) := do
  let s := skipGap s
  let (ends, r) ← comparisons.findSome? fun c => (takeTag c.1 s).map fun r => (c.2, r)
  let (b, r) ← takeBoundary (skipGap r)
  return (.range none (ends b).1 (ends b).2, r)

/-- A range with both boundaries in brackets. -/
def takeInterval (s : List Char) : Option (Expression × List Char) := do
  let (isOpen, r) ← match s with
    | '{' :: r => some (true, r)
    | '[' :: r => some (false, r)
    | _ => none
  let (lower, r) ← takeBoundary (skipGap r)
  let r ← takeGap (← takeTag "TO" (← takeGap r))
  let (upper, r) ← takeBoundary r
  let (isUpperOpen, r) ← match skipGap r with
    | '}' :: r => some (true, r)
    | ']' :: r => some (false, r)
    | _ => none
  return (.range none (writtenEnd isOpen lower) (writtenEnd isUpperOpen upper), r)

/-- The texts of a set, with blanks between them. -/
def takeElements : Nat → List Char → List String × List Char
  | 0, s => ([], s)
  | n + 1, s =>
    match takeText s with
    | none => ([], s)
    | some (text, r) =>
      match (takeGap r).map (takeElements n) with
      | some (more@(_ :: _), r) => (text :: more, r)
      | _ => ([text], r)

/-- A set of texts in brackets. -/
def takeSet (s : List Char) : Option (Expression × List Char) := do
  let r ← takeGap (← takeTag "IN" (skipGap s))
  let r ← takeTag "[" r
  let (elements, r) := takeElements r.length (skipGap r)
  return (.set none elements, ← takeTag "]" r)

/-- A star where a value could stand, unless it begins a word. -/
def takePresent (s : List Char) : Option (Expression × List Char) := do
  let r ← takeTag "*" (skipGap s)
  let ends := r.head?.all fun c => isBlank c || wordSpecials.contains c
  if ends then return (.present "", r) else none

/-- A part that names no field. -/
def takeBare (s : List Char) : Option (Expression × List Char) :=
  takeComparison s <|> takeInterval s <|> takeSet s <|> takePresent s <|> takePhrase s

/-- A part with the field that it names, if it names one. -/
def takeFielded (s : List Char) : Option (Expression × List Char) :=
  match takeFieldName s with
  | some (field, r) => (takeBare r).map fun p => (p.1.withField (some field), p.2)
  | none => takeBare s

/-- How much a part counts. -/
def takeBoost (e : Expression) (s : List Char) : Expression × List Char :=
  match s with
  | '^' :: r =>
    match takeDecimal r with
    | some (digits, r) =>
      match readDouble (String.ofList digits) with
      | .ok x =>
        if Float.abs (x.toFloat - 1) > 2.220446049250313e-16 then (.boost e x.toFloat, r)
        else (e, r)
      | .error _ => (e, s)
    | none => (e, s)
  | _ => (e, s)

/-- A sign in front of a part. -/
def takeSign : List Char → Option Occur × List Char
  | '+' :: r => (some .must, r)
  | '-' :: r => (some .mustNot, r)
  | r => (none, r)

/-- A junction in front of a part. -/
def takeJunction (s : List Char) : Option Junction × List Char :=
  match takeTag "OR " s with
  | some r => (some .or, r)
  | none =>
    match takeTag "AND " s with
    | some r => (some .and, r)
    | none => (none, s)

mutual

/-- A part without a sign. -/
def takeLeaf : Nat → List Char → Option (Expression × List Char)
  | 0, _ => none
  | n + 1, s =>
    match s with
    | '(' :: r => do
      let (e, r) ← takeParts n r
      return (e, ← takeTag ")" r)
    | '*' :: r => some (.all, r)
    | _ =>
      (do
        let (e, r) ← takeLeaf n (← takeGap (← takeTag "NOT" s))
        return (e.negated, r)) <|>
      takeFielded s <|>
      (do
        let (field, r) ← takeFieldName s
        let (e, r) ← takeParts n (← takeTag "(" r)
        return (e.withDefaultField field, ← takeTag ")" r))

/-- A part with its sign, and with how much it counts. -/
def takeSigned : Nat → List Char → Option ((Option Occur × Expression) × List Char)
  | 0, _ => none
  | n + 1, s => do
    let (sign, r) := takeSign s
    let (e, r) ← takeLeaf n r
    let (e, r) := takeBoost e r
    return ((sign, e), r)

/-- As many further parts as there are. -/
def takeFurther : Nat → List Char → List JoinedPart × List Char
  | 0, s => ([], s)
  | n + 1, s =>
    let (junction, r) := takeJunction s
    match takeSigned n (skipGap r) with
    | none => ([], s)
    | some ((sign, e), r) =>
      let (more, r) := takeFurther n (skipGap r)
      ((junction, sign, e) :: more, r)

/-- Parts with junctions between them. -/
def takeParts : Nat → List Char → Option (Expression × List Char)
  | 0, _ => none
  | n + 1, s => do
    let ((sign, e), r) ← takeSigned n (skipGap s)
    let (more, rest) := match takeGap r with
      | some t => takeFurther n t
      | none => ([], r)
    if more.isEmpty then
      return (if sign == some .mustNot then e.negated else e, skipGap r)
    else return (joined ((none, sign, e) :: more), skipGap rest)

end

/-- The expression of a text. -/
def read? (s : String) : Option Expression :=
  let chars := skipGap s.toList
  if chars.isEmpty then some (.clause [])
  else match takeParts (4 * chars.length + 4) chars with
    | some (e, []) => some e.flattened
    | _ => none

end Catalog.Expression
