import Commentary.Text.Identifier

/-! The tokens of a script, one at a time. Every scanner takes the text from its token on and
gives back what it has read and what is left. -/
namespace Commentary.Script

inductive Lexeme where
  | word (name : String) (escaped : Bool)
  | privateName (name : String)
  | mark (text : String)
  | number
  | quoted (value : String)
  /-- A piece of a template, up to its end or to the next substitution. -/
  | template (closes : Bool) (sound : Bool)
  | regex
  /-- Text between the tags of an element. -/
  | text
  | finish
deriving Repr, DecidableEq

def byteLength (text : List Char) : Nat :=
  text.foldl (fun n c => n + c.utf8Size) 0

def quoteMark : Char := '\x27'
def backtick : Char := '\x60'

/-- A line ends at a line feed, a carriage return or a Unicode line or paragraph separator. -/
def isLineEnd (c : Char) : Bool :=
  c == '\n' || c == '\r' || c.toNat == 0x2028 || c.toNat == 0x2029

def isSpace (c : Char) : Bool :=
  Text.inRanges [(9, 9), (11, 12), (32, 32), (0x85, 0x85), (0xA0, 0xA0), (0x1680, 0x1680),
    (0x2000, 0x200B), (0x202F, 0x202F), (0x205F, 0x205F), (0x3000, 0x3000), (0xFEFF, 0xFEFF)] c

def startsWord (c : Char) : Bool :=
  c == '$' || c == '_' || Text.startsIdentifier c

def continuesWord (c : Char) : Bool :=
  c == '$' || c.toNat == 0x200C || c.toNat == 0x200D || Text.continuesIdentifier c

def hexValue (c : Char) : Option Nat :=
  if '0' ≤ c && c ≤ '9' then some (c.toNat - 48)
  else if 'a' ≤ c && c ≤ 'f' then some (c.toNat - 87)
  else if 'A' ≤ c && c ≤ 'F' then some (c.toNat - 55)
  else none

def hexNumber (digits : List Char) : Option Nat :=
  digits.foldlM (fun n c => (hexValue c).map (16 * n + ·)) 0

/-- The character of a code point; a code point without one becomes a replacement character. -/
def charAt (n : Nat) : Char :=
  if n.isValidChar then Char.ofNat n else Char.ofNat 0xFFFD

/-- What a text with escapes stands for, or nothing if an escape is malformed. `braced` holds
the value read so far inside a braced escape. Octal escapes are allowed in strings only. -/
def unescape (octal : Bool) (braced : Option Nat) : List Char → Option (List Char)
  | [] => if braced.isSome then none else some []
  | c :: rest =>
    match braced with
    | some n =>
      if c = '}' then (unescape octal none rest).map (charAt n :: ·)
      else match hexValue c with
        | some d => if 16 * n + d ≤ 0x10FFFF then unescape octal (some (16 * n + d)) rest else none
        | none => none
    | none =>
      if c != '\\' then (unescape octal none rest).map (c :: ·)
      else match rest with
        | 'u' :: '{' :: h :: more =>
          match hexValue h with
          | some d => unescape octal (some d) more
          | none => none
        | 'u' :: a :: b :: c :: d :: more =>
          match hexNumber [a, b, c, d] with
          | some n => (unescape octal none more).map (charAt n :: ·)
          | none => none
        | 'u' :: _ => none
        | 'x' :: a :: b :: more =>
          match hexNumber [a, b] with
          | some n => (unescape octal none more).map (charAt n :: ·)
          | none => none
        | 'x' :: _ => none
        | '\r' :: '\n' :: more => unescape octal none more
        | 'n' :: more => (unescape octal none more).map ('\n' :: ·)
        | 'r' :: more => (unescape octal none more).map ('\r' :: ·)
        | 't' :: more => (unescape octal none more).map ('\t' :: ·)
        | 'b' :: more => (unescape octal none more).map ('\x08' :: ·)
        | 'v' :: more => (unescape octal none more).map ('\x0b' :: ·)
        | 'f' :: more => (unescape octal none more).map ('\x0c' :: ·)
        | '0' :: more =>
          if !octal && more.head?.any Char.isDigit then none
          else (unescape octal none more).map ('\x00' :: ·)
        | e :: more =>
          if isLineEnd e then unescape octal none more
          else if e.isDigit && !octal then none
          else (unescape octal none more).map (e :: ·)
        | [] => none

/-- The text up to the closing quote and what follows the quote. -/
def spanQuoted (quote : Char) : List Char → Option (List Char × List Char)
  | [] => none
  | '\\' :: '\r' :: '\n' :: rest =>
    (spanQuoted quote rest).map fun p => ('\\' :: '\r' :: '\n' :: p.1, p.2)
  | '\\' :: c :: rest => (spanQuoted quote rest).map fun p => ('\\' :: c :: p.1, p.2)
  | c :: rest =>
    if c = quote then some ([], rest)
    else if c = '\n' || c = '\r' then none
    else (spanQuoted quote rest).map fun p => (c :: p.1, p.2)

/-- The text of a template up to its end or to the start of a substitution, whether it is the
end, and what follows. -/
def spanTemplate : List Char → Option (List Char × Bool × List Char)
  | [] => none
  | '\\' :: c :: rest => (spanTemplate rest).map fun p => ('\\' :: c :: p.1, p.2)
  | '$' :: '{' :: rest => some ([], false, rest)
  | c :: rest =>
    if c = backtick then some ([], true, rest)
    else (spanTemplate rest).map fun p => (c :: p.1, p.2)

/-- The body of a regular expression up to its closing slash. Inside a class a slash is plain. -/
def spanRegex (inClass : Bool) : List Char → Option (List Char × List Char)
  | [] => none
  | '\\' :: c :: rest =>
    if isLineEnd c then none else (spanRegex inClass rest).map fun p => ('\\' :: c :: p.1, p.2)
  | c :: rest =>
    if isLineEnd c then none
    else if c = '/' && !inClass then some ([], rest)
    else (spanRegex ((inClass || c == '[') && c != ']') rest).map fun p => (c :: p.1, p.2)

/-- Each flag of a regular expression is known and given once. -/
def soundFlags : List Char → Bool
  | [] => true
  | c :: rest => "dgimsuvy".toList.contains c && !rest.contains c && soundFlags rest

/-- A scanned name: its characters in the source, what they stand for, and whether it has
escapes. -/
structure Name where
  taken : List Char := []
  value : List Char := []
  escaped : Bool := false
  rest : List Char := []

def Name.push (n : Name) (taken : List Char) (c : Char) (escaped : Bool) : Name :=
  { n with taken := taken ++ n.taken, value := c :: n.value, escaped := escaped || n.escaped }

/-- The longest name at the start of the text. `also` admits further characters behind the
first one. -/
def spanName (also : Char → Bool) (first : Bool) (braced : Option (Nat × List Char)) :
    List Char → Option Name
  | [] => if braced.isSome then none else some {}
  | c :: rest =>
    let fits := fun d => if first then startsWord d else continuesWord d
    match braced with
    | some (n, taken) =>
      if c = '}' then
        if fits (charAt n) then
          (spanName also false none rest).map (·.push (taken ++ [c]) (charAt n) true)
        else none
      else match hexValue c with
        | some d =>
          if 16 * n + d ≤ 0x10FFFF then spanName also first (some (16 * n + d, taken ++ [c])) rest
          else none
        | none => none
    | none =>
      if fits c || (!first && also c) then
        (spanName also false none rest).map (·.push [c] c false)
      else if c != '\\' then some { rest := c :: rest }
      else match rest with
        | 'u' :: '{' :: h :: more =>
          match hexValue h with
          | some d => spanName also first (some (d, [c, 'u', '{', h])) more
          | none => none
        | 'u' :: w :: x :: y :: z :: more =>
          match hexNumber [w, x, y, z] with
          | some n =>
            if fits (charAt n) then
              (spanName also false none more).map (·.push [c, 'u', w, x, y, z] (charAt n) true)
            else none
          | none => none
        | _ => none

/-- Underscores stand alone and between digits. -/
def wellSpaced : List Char → Bool
  | [] => true
  | ['_'] => false
  | '_' :: '_' :: _ => false
  | _ :: rest => wellSpaced rest

def spanDigits (digit : Char → Bool) (text : List Char) : Option (List Char × List Char) :=
  let p := text.span fun c => digit c || c == '_'
  if p.1.head? != some '_' && wellSpaced p.1 then some p else none

/- A fraction or an exponent may follow a decimal integer, and then no big integer mark. -/
def spanFraction (text : List Char) : Option (List Char × List Char) :=
  match text with
  | '.' :: rest => (spanDigits Char.isDigit rest).map fun p => ('.' :: p.1, p.2)
  | _ => some ([], text)

def spanExponent (text : List Char) : Option (List Char × List Char) :=
  match text with
  | e :: rest =>
    if e != 'e' && e != 'E' then some ([], text)
    else
      let (sign, digits) := match rest with
        | s :: more => if s == '+' || s == '-' then ([s], more) else ([], rest)
        | [] => ([], [])
      match spanDigits Char.isDigit digits with
      | some ([], _) | none => none
      | some (taken, left) => some (e :: sign ++ taken, left)
  | [] => some ([], [])

def spanRadix (digit : Char → Bool) (head text : List Char) : Option (List Char × List Char) :=
  match spanDigits digit text with
  | some ([], _) | none => none
  | some (taken, 'n' :: left) => some (head ++ taken ++ ['n'], left)
  | some (taken, left) => some (head ++ taken, left)

def spanDecimal (text : List Char) : Option (List Char × List Char) := do
  let (whole, left) ← spanDigits Char.isDigit text
  let legacy := whole.head? == some '0' && whole.length != 1
  if legacy && whole.contains '_' then failure
  if legacy && whole.all fun c => c < '8' then return (whole, left)
  match left with
  | 'n' :: more => if legacy then failure else return (whole ++ ['n'], more)
  | _ =>
    let (fraction, left) ← spanFraction left
    let (exponent, left) ← spanExponent left
    return (whole ++ fraction ++ exponent, left)

/-- A number, which no name and no further digit may touch. -/
def spanNumber (text : List Char) : Option (List Char × List Char) := do
  let p ← match text with
    | '0' :: m :: rest =>
      if m == 'x' || m == 'X' then spanRadix (fun c => (hexValue c).isSome) ['0', m] rest
      else if m == 'o' || m == 'O' then spanRadix (fun c => '0' ≤ c && c < '8') ['0', m] rest
      else if m == 'b' || m == 'B' then spanRadix (fun c => c == '0' || c == '1') ['0', m] rest
      else spanDecimal text
    | _ => spanDecimal text
  if p.2.head?.any fun c => startsWord c || c.isDigit || c == '\\' then failure
  return p

/- Longer marks come before their own beginnings. An angle that closes is always a mark of its
own; the grammar joins it with what follows where an operator may stand. -/
def marks : List String :=
  ["...", "===", "!==", "**=", "<<=", "&&=", "||=", "??=", "=>", "==", "!=", "++", "--", "+=",
   "-=", "**", "*=", "/=", "%=", "<<", "<=", "&&", "&=", "||", "|=", "^=", "??", "?.", "\x7b",
   "\x7d", "(", ")", "[", "]", ";", ",", "~", ":", "@", ".", "<", ">", "=", "!", "+", "-", "*",
   "/", "%", "&", "|", "^", "?"]

def spanMark (table : List String) (text : List Char) : Option (Lexeme × List Char × List Char) :=
  (table.find? fun m => m.toList.isPrefixOf text).map fun m =>
    (.mark m, m.toList, text.drop m.length)

def spanTemplatePiece (opening : Char) (text : List Char) :
    Option (Lexeme × List Char × List Char) := do
  let (body, closes, rest) ← spanTemplate text
  let sound := (unescape false none body).isSome
  let ending := if closes then [backtick] else ['$', '{']
  return (.template closes sound, opening :: body ++ ending, rest)

/-- The token at the start of a text that begins with no space and no comment. -/
def scanToken (text : List Char) : Option (Lexeme × List Char × List Char) :=
  match text with
  | [] => some (.finish, [], [])
  | c :: rest =>
    if c == '"' || c == quoteMark then do
      let (body, left) ← spanQuoted c rest
      let value ← unescape true none body
      return (.quoted (String.ofList value), c :: body ++ [c], left)
    else if c == backtick then spanTemplatePiece c rest
    else if c.isDigit || (c == '.' && rest.head?.any Char.isDigit) then do
      let (taken, left) ← spanNumber text
      return (.number, taken, left)
    else if c == '#' then do
      let name ← spanName (fun _ => false) true none rest
      if name.value.isEmpty then failure
      return (.privateName (String.ofList name.value), c :: name.taken, name.rest)
    else if startsWord c || c == '\\' then do
      let name ← spanName (fun _ => false) true none text
      return (.word (String.ofList name.value) name.escaped, name.taken, name.rest)
    else if c == '?' && rest.head? == some '.' && (rest.drop 1).head?.any Char.isDigit then
      some (.mark "?", [c], rest)
    else spanMark marks text

end Commentary.Script
