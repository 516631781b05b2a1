import CodeAtlas.Toml.Quoted
import CodeAtlas.Toml.Scalar

/-!
# Reading TOML

`Toml.ofText` reads a document line by line. Every reader takes the text from where it stands and
returns what it read and the text behind. Lists and tables in braces may be nested eighty deep, and
a key may have eighty names. The readers that go around in a loop take one unit of fuel for each
round, and since a round reads at least one character, the length of the text is enough.
-/

namespace CodeAtlas.Toml

/-! ## What stands between -/

/-- The text behind a comment, which has no control characters but the tab. -/
def afterComment? : List Char → Option (List Char)
  | '#' :: rest =>
    let behind := rest.dropWhile isPrintable
    match behind with
    | [] => some []
    | _ => if (afterBreak? behind).isSome then some behind else none
  | text => some text

/-- The text behind the end of a line: spaces, a comment, and a line break or the end. -/
def endLine (text : List Char) : Option (List Char) := do
  match ← afterComment? (skipBlank text) with
  | [] => return []
  | rest => afterBreak? rest

/-- The text behind spaces, comments and line breaks, which stand between the parts of a list and
those of a table in braces. -/
def skipSpace (inComment : Bool) : List Char → Option (List Char)
  | [] => some []
  | '\n' :: rest => skipSpace false rest
  | '\r' :: '\n' :: rest => skipSpace false rest
  | c :: rest =>
    if inComment then
      if isPrintable c then skipSpace true rest else none
    else if c = '#' then skipSpace true rest
    else if c = ' ' ∨ c = '\t' then skipSpace false rest
    else some (c :: rest)

/-! ## Keys -/

/-- Whether a character may stand in a name without quotes. -/
def isBare (c : Char) : Bool :=
  c.isAlphanum || c = '_' || c = '-'

/-- A name, with or without quotes. -/
def readName : List Char → Option (List Char × List Char)
  | '"' :: '"' :: '"' :: _ => none
  | '"' :: rest => readBasic (rest.length + 1) rest
  | '\x27' :: '\x27' :: '\x27' :: _ => none
  | '\x27' :: rest => readLiteral rest
  | text =>
    match text.takeWhile isBare with
    | [] => none
    | name => some (name, text.dropWhile isBare)

/-- At most `limit` names with dots between them, and the text behind them and the spaces that
follow. -/
def readNames : Nat → List Char → Option (List (List Char) × List Char)
  | 0, _ => none
  | limit + 1, text => do
    let (name, rest) ← readName (skipBlank text)
    match skipBlank rest with
    | '.' :: rest =>
      let (names, rest) ← readNames limit rest
      return (name :: names, rest)
    | rest => return ([name], rest)

/-- How many names a key may have, and how deep lists and tables in braces may be nested. -/
def maxDepth : Nat := 80

/-- The names of a key, and the text behind it and the spaces that follow. -/
def readKey (text : List Char) : Option (List (List Char) × List Char) :=
  readNames maxDepth text

/-! ## Values -/

/-- Whether a character may stand in a value without quotes. The value ends at a blank, a line
break, a comment, or at one of the signs that hold lists and tables together. -/
def isScalarChar (c : Char) : Bool :=
  !" \t\r\n#=,[]\x7b\x7d".toList.contains c

/-- A value without quotes. A date goes on behind a space when a digit follows. -/
def readScalar (text : List Char) : Option (Value × List Char) :=
  let run := text.takeWhile isScalarChar
  let rest := text.dropWhile isScalarChar
  let joined :=
    match rest with
    | ' ' :: c :: more =>
      if Scalar.afterDate? run = some [] ∧ c.isDigit then
        (run ++ ' ' :: (c :: more).takeWhile isScalarChar, (c :: more).dropWhile isScalarChar)
      else (run, rest)
    | _ => (run, rest)
  (Scalar.ofText joined.1).map fun value => (value, joined.2)

mutual

/-- A value at which `depth` more levels of nesting are allowed. -/
def readValue : Nat → Nat → List Char → Option (Value × List Char)
  | 0, _, _ => none
  | fuel + 1, depth, text =>
    match text with
    | '"' :: _ => (readText text).map fun (chars, rest) => (.text chars, rest)
    | '\x27' :: _ => (readText text).map fun (chars, rest) => (.text chars, rest)
    | '[' :: rest =>
      match depth with
      | 0 => none
      | depth + 1 => (readItems fuel depth rest).map fun (items, rest) => (.array items, rest)
    | '{' :: rest =>
      match depth with
      | 0 => none
      | depth + 1 =>
        (readMembers fuel depth [] rest).map fun (members, rest) => (.table .braces members, rest)
    | _ => readScalar text

/-- The items of a list up to its end. -/
def readItems : Nat → Nat → List Char → Option (List Value × List Char)
  | 0, _, _ => none
  | fuel + 1, depth, text => do
    match ← skipSpace false text with
    | ']' :: rest => return ([], rest)
    | text =>
      let (item, rest) ← readValue fuel depth text
      match ← skipSpace false rest with
      | ']' :: rest => return ([item], rest)
      | ',' :: rest =>
        let (items, rest) ← readItems fuel depth rest
        return (item :: items, rest)
      | _ => none

/-- The members of a table in braces up to its end, added to those before. Comments and line breaks
may stand on both sides of an equals sign in braces. -/
def readMembers : Nat → Nat → Members → List Char → Option (Members × List Char)
  | 0, _, _, _ => none
  | fuel + 1, depth, before, text => do
    match ← skipSpace false text with
    | '}' :: rest => return (before, rest)
    | text =>
      let (key, rest) ← readKey text
      match ← skipSpace false rest with
      | '=' :: rest =>
        let (value, rest) ← readValue fuel depth (← skipSpace false rest)
        let members ← insertKey false .header key value before
        match ← skipSpace false rest with
        | '}' :: rest => return (members, rest)
        | ',' :: rest => readMembers fuel depth members rest
        | _ => none
      | _ => none

end

/-! ## Lines -/

/-- The lines of a document behind the header with the path `path`, added to what the lines before
have built. -/
def readLines : Nat → List (List Char) → Members → List Char → Option Members
  | 0, _, document, text => if text = [] then some document else none
  | fuel + 1, path, document, text =>
    match skipBlank text with
    | [] => some document
    | '#' :: rest => do readLines fuel path document (← endLine ('#' :: rest))
    | '\n' :: rest => readLines fuel path document rest
    | '\r' :: rest => do readLines fuel path document (← endLine ('\r' :: rest))
    | '[' :: '[' :: rest => do
      match ← readKey rest with
      | (path, ']' :: ']' :: rest) =>
        let document ← openElement path document
        readLines fuel path document (← endLine rest)
      | _ => none
    | '[' :: rest => do
      match ← readKey rest with
      | (path, ']' :: rest) =>
        let document ← openTable path document
        readLines fuel path document (← endLine rest)
      | _ => none
    | text => do
      match ← readKey text with
      | (key, '=' :: rest) =>
        let rest := skipBlank rest
        let (value, rest) ← readValue (2 * rest.length + 1) maxDepth rest
        let document ← changeAt (insertKey false .header key value) path document
        readLines fuel path document (← endLine rest)
      | _ => none

/-- A text without a byte order mark in front. -/
def withoutMark : List Char → List Char
  | '\ufeff' :: rest => rest
  | text => text

/-- The members of the document that a text is. -/
def ofText (text : String) : Option Members :=
  let chars := withoutMark text.toList
  readLines (chars.length + 1) [] [] chars

end CodeAtlas.Toml
