import ElfScope.Text.Character

/-!
# Characters, blanks and strings of TOML

A reader takes the rest of a document and returns what it has read with the rest behind it, or
nothing where the document is malformed. A loop takes at most as many steps as its bound has
characters, and the text from where the loop starts, opening delimiter included, is its bound.
-/

namespace ElfScope.Toml

/-- Reads something off the front of a document. -/
abbrev Reader (α : Type) := List Char → Option (α × List Char)

/-- Whether a character may stand in a comment: no control other than the tab. -/
def isPlain (char : Char) : Bool :=
  char == '\t' || ('\x20' ≤ char && char ≤ '\x7e') || '\x80' ≤ char

/-- Whether a character is a space or a tab. -/
def isSpace (char : Char) : Bool :=
  char == ' ' || char == '\t'

/-- What is behind spaces and tabs. -/
def skipSpace (input : List Char) : List Char :=
  input.dropWhile isSpace

/-- What is behind a newline. -/
def newline? : List Char → Option (List Char)
  | '\n' :: rest => some rest
  | '\r' :: '\n' :: rest => some rest
  | _ => none

/-- What is behind spaces, newlines and comments; `inComment` says whether a comment has begun. -/
def skipBlank : Bool → List Char → List Char
  | _, [] => []
  | _, '\n' :: rest => skipBlank false rest
  | _, '\r' :: '\n' :: rest => skipBlank false rest
  | true, char :: rest => if isPlain char then skipBlank true rest else char :: rest
  | false, '#' :: rest => skipBlank true rest
  | false, char :: rest => if isSpace char then skipBlank false rest else char :: rest

/-- What is behind spaces and newlines. -/
def skipLines : List Char → List Char
  | '\n' :: rest => skipLines rest
  | '\r' :: '\n' :: rest => skipLines rest
  | ' ' :: rest => skipLines rest
  | '\t' :: rest => skipLines rest
  | rest => rest

/-- What is behind the end of a line: spaces, a comment, and a newline or the end. -/
def lineEnd? (input : List Char) : Option (List Char) :=
  let rest := match skipSpace input with
    | '#' :: comment => comment.dropWhile isPlain
    | other => other
  match rest with
  | [] => some []
  | _ => newline? rest

/-- The character whose number is given by exactly `count` hexadecimal digits. -/
def codePoint (count : Nat) (input : List Char) : Option (Char × List Char) := do
  let digits ← (input.take count).mapM Text.hexDigit?
  if digits.length ≠ count then failure
  let char ← Text.charOf? (digits.foldl (fun value digit => 16 * value + digit) 0)
  return (char, input.drop count)

/-- The character behind a backslash. -/
def escaped : Reader Char
  | 'b' :: rest => some ('\x08', rest)
  | 't' :: rest => some ('\t', rest)
  | 'n' :: rest => some ('\n', rest)
  | 'f' :: rest => some ('\x0c', rest)
  | 'r' :: rest => some ('\r', rest)
  | '"' :: rest => some ('"', rest)
  | '\\' :: rest => some ('\\', rest)
  | 'u' :: rest => codePoint 4 rest
  | 'U' :: rest => codePoint 8 rest
  | _ => none

/-- One character in front of what a reader reads. -/
def consChar (char : Char) (rest : Option (List Char × List Char)) :
    Option (List Char × List Char) :=
  rest.map fun (content, input) => (char :: content, input)

/-- The rest of a string in double quotes. -/
def basicTail : List Char → Reader (List Char)
  | [], _ => none
  | _ :: _, '"' :: rest => some ([], rest)
  | _ :: bound, '\\' :: rest => do
    let (char, rest) ← escaped rest
    consChar char (basicTail bound rest)
  | _ :: bound, char :: rest =>
    if isPlain char then consChar char (basicTail bound rest) else none
  | _ :: _, [] => none

/-- The rest of a string in single quotes. -/
def literalTail : Reader (List Char)
  | [] => none
  | '\x27' :: rest => some ([], rest)
  | char :: rest => if isPlain char then consChar char (literalTail rest) else none

/-- Up to two more quotes at the end of a string in three quotes belong to it. -/
def closingQuotes (quote : Char) : List Char → List Char × List Char
  | first :: second :: rest =>
    if first = quote then
      if second = quote then ([quote, quote], rest) else ([quote], second :: rest)
    else ([], first :: second :: rest)
  | [only] => if only = quote then ([quote], []) else ([], [only])
  | [] => ([], [])

/-- The rest of a string in three double quotes. -/
def basicLinesTail : List Char → Reader (List Char)
  | [], _ => none
  | _ :: _, '"' :: '"' :: '"' :: rest => some (closingQuotes '"' rest)
  | _ :: bound, '\\' :: rest =>
    match newline? (skipSpace rest) with
    | some next => basicLinesTail bound (skipLines next)
    | none => do
      let (char, rest) ← escaped rest
      consChar char (basicLinesTail bound rest)
  | _ :: bound, '\r' :: '\n' :: rest => consChar '\n' (basicLinesTail bound rest)
  | _ :: bound, char :: rest =>
    if isPlain char || char == '\n' then consChar char (basicLinesTail bound rest) else none
  | _ :: _, [] => none

/-- The rest of a string in three single quotes. -/
def literalLinesTail : Reader (List Char)
  | [] => none
  | '\x27' :: '\x27' :: '\x27' :: rest => some (closingQuotes '\x27' rest)
  | '\r' :: '\n' :: rest => consChar '\n' (literalLinesTail rest)
  | char :: rest =>
    if isPlain char || char == '\n' then consChar char (literalLinesTail rest) else none

/-- A newline right behind three opening quotes is not part of the string. -/
def trimNewline (input : List Char) : List Char :=
  (newline? input).getD input

/-- The text that a reader reads. -/
def asText (content : Option (List Char × List Char)) : Option (String × List Char) :=
  content.map fun (chars, rest) => (String.ofList chars, rest)

/-- A string of any kind; nothing where there is no quote. -/
def string : Reader String
  | '"' :: '"' :: '"' :: rest => asText (basicLinesTail ('"' :: rest) (trimNewline rest))
  | '\x27' :: '\x27' :: '\x27' :: rest => asText (literalLinesTail (trimNewline rest))
  | '"' :: rest => asText (basicTail ('"' :: rest) rest)
  | '\x27' :: rest => asText (literalTail rest)
  | _ => none

/-- Whether a character may stand in a key without quotes. -/
def isKeyChar (char : Char) : Bool :=
  char.isAlphanum || char == '_' || char == '-'

/-- One part of a key. -/
def keyPart : Reader String
  | '"' :: rest => asText (basicTail ('"' :: rest) rest)
  | '\x27' :: rest => asText (literalTail rest)
  | input =>
    match input.takeWhile isKeyChar with
    | [] => none
    | name => some (String.ofList name, input.dropWhile isKeyChar)

/-- The parts of a key between dots, with the space around them. -/
def keyParts : Nat → Reader (List String)
  | 0, _ => none
  | fuel + 1, input => do
    let (name, rest) ← keyPart (skipSpace input)
    match skipSpace rest with
    | '.' :: rest =>
      let (names, rest) ← keyParts fuel rest
      return (name :: names, rest)
    | rest => return ([name], rest)

/-- How deep values may be nested, and how many parts a key may have. -/
def depthLimit : Nat := 80

/-- A key: the parts in front of the last, and the last. -/
def key : Reader (List String × String) := fun input => do
  let (names, rest) ← keyParts depthLimit input
  match names.reverse with
  | [] => failure
  | last :: outer =>
    if names.length < depthLimit then return ((outer.reverse, last), rest) else failure

end ElfScope.Toml
