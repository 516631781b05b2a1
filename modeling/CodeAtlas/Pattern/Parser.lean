import CodeAtlas.Pattern
import CodeAtlas.Text.Alphabetic
import CodeAtlas.Text.Blank
import CodeAtlas.Text.Hex

/-!
# Reading patterns

`Pattern.ofText` reads the text of a pattern. Every reader takes the text from where it stands and
returns what it read and the text behind. A pattern can switch to the verbose mode, in which white
space and comments are passed over almost everywhere. A comment begins with `#` and ends with the
line.

The readers that go around in a loop take one unit of fuel for each round. A round reads at least
one character, and one that opens a group or ends a choice takes two units.
-/

namespace CodeAtlas.Pattern

open Text

/-! ## The verbose mode -/

/-- The text behind white space and comments. -/
def behindComments (inComment : Bool) : List Char → List Char
  | [] => []
  | c :: rest =>
    if inComment then behindComments (c ≠ '\n') rest
    else if c = '#' then behindComments true rest
    else if isBlank c then behindComments false rest
    else c :: rest

/-- The text behind what the verbose mode passes over. -/
def skipIgnored (verbose : Bool) (text : List Char) : List Char :=
  if verbose then behindComments false text else text

/-- The character that follows. In the verbose mode white space is not counted, and neither is the
sign of a comment, unless nothing else follows. -/
def peek? (verbose : Bool) (text : List Char) : Option Char :=
  if verbose then
    let found :=
      match text.dropWhile isBlank with
      | '#' :: rest => rest.dropWhile isBlank
      | rest => rest
    match found with
    | [] => text.head?
    | c :: _ => some c
  else text.head?

/-! ## Escapes -/

/-- What a character or an escape stands for. -/
inductive Atom
  /-- A single character. -/
  | literal (c : Literal)
  /-- A set of characters. -/
  | shorthand (set : Shorthand)
  /-- An edge of the text, or of a word. -/
  | edge (ofWord : Bool)

/-- As a pattern. -/
def Atom.toPattern : Atom → Pattern
  | literal c => .literal c
  | shorthand set => .shorthand set
  | edge ofWord => .edge ofWord

/-- As a set of characters, which an edge is not. -/
def Atom.toSet? : Atom → Option CharSet
  | literal c => some (.literal c)
  | shorthand set => some (.shorthand set)
  | edge _ => none

/-- As many hexadecimal digits as wanted. -/
def readDigits (verbose : Bool) : Nat → List Char → Option (List Char × List Char)
  | 0, text => some ([], text)
  | _, [] => none
  | count + 1, c :: rest => do
    let (digits, rest) ← readDigits verbose count (skipIgnored verbose rest)
    return (c :: digits, rest)

/-- A character by its code point, which has as many digits as wanted. -/
def readByNumber (verbose : Bool) (count : Nat) (text : List Char) :
    Option (Atom × List Char) := do
  let (digits, rest) ← readDigits verbose count (skipIgnored verbose text)
  let char ← charOfHex digits
  return (.literal { char, asByte := count = 2 }, rest)

/-- Whether a letter in either case names a general category of Unicode with its parts. -/
def isCategory (c : Char) : Bool :=
  "clmnpsz".toList.contains c.toLower

/-- Whether a character stands for itself behind a backslash: all of ASCII but letters, digits, and
angle brackets. -/
def isEscapable (c : Char) : Bool :=
  c.toNat < 0x80 && !c.isAlphanum && c ≠ '<' && c ≠ '>'

/-- What stands behind a backslash. -/
def readEscape (verbose : Bool) : List Char → Option (Atom × List Char)
  | [] => none
  | c :: rest =>
    match c with
    | 'x' => readByNumber verbose 2 rest
    | 'u' => readByNumber verbose 4 rest
    | 'U' => readByNumber verbose 8 rest
    | 'p' | 'P' =>
      match skipIgnored verbose rest with
      | [] => none
      | name :: rest =>
        if isCategory name then some (.shorthand .category, skipIgnored verbose rest) else none
    | 'd' | 's' | 'w' => some (.shorthand (.common false), rest)
    | 'D' | 'S' | 'W' => some (.shorthand (.common true), rest)
    | 'a' => some (.literal { char := '\x07' }, rest)
    | 't' => some (.literal { char := '\t' }, rest)
    | 'n' => some (.literal { char := '\n' }, rest)
    | 'v' => some (.literal { char := '\x0b' }, rest)
    | 'f' => some (.literal { char := '\x0c' }, rest)
    | 'r' => some (.literal { char := '\r' }, rest)
    | 'A' | 'z' => some (.edge false, rest)
    -- A brace would name a special edge, and nothing could close it.
    | 'b' => if rest.head? = some '{' then none else some (.edge true, rest)
    | 'B' | '<' | '>' => some (.edge true, rest)
    | c => if isEscapable c then some (.literal { char := c }, rest) else none

/-! ## Sets in brackets -/

/-- The names of sets of ASCII characters. -/
def setNames : List String :=
  ["alnum", "alpha", "ascii", "blank", "cntrl", "digit", "graph", "lower", "print", "punct",
    "space", "upper", "word", "xdigit"]

/-- A set with a name, read behind its bracket. The name stands between colons. -/
def readNamed : List Char → Option (CharSet × List Char)
  | ':' :: rest =>
    let (negated, rest) :=
      match rest with
      | '^' :: rest => (true, rest)
      | rest => (false, rest)
    match rest.dropWhile (· ≠ ':') with
    | ':' :: ']' :: behind =>
      if setNames.contains (String.ofList (rest.takeWhile (· ≠ ':'))) then
        some (.named negated, behind)
      else none
    | _ => none
  | _ => none

/-- A character or an escape. -/
def readAtom (verbose : Bool) : List Char → Option (Atom × List Char)
  | [] => none
  | '\\' :: rest => readEscape verbose rest
  | c :: rest => some (.literal { char := c }, rest)

/-- A character, an escape, or two characters with a hyphen between them. A hyphen in front of
another one or of the closing bracket makes no range. -/
def readRange (verbose : Bool) (text : List Char) : Option (CharSet × List Char) := do
  let (first, rest) ← readAtom verbose text
  match skipIgnored verbose rest with
  | '-' :: behind =>
    let following := peek? verbose behind
    if following = some ']' ∨ following = some '-' then return (← first.toSet?, '-' :: behind)
    else
      match first, ← readAtom verbose (skipIgnored verbose behind) with
      | .literal low, (.literal high, rest) =>
        if low.char ≤ high.char then return (.range low high, rest) else none
      | _, _ => none
  | rest => return (← first.toSet?, rest)

/-- The set that several ones make. -/
def CharSet.ofList : List CharSet → CharSet
  | [] => .empty
  | [set] => set
  | sets => .union sets

/-- The set of the sets read behind an operator, in reverse, and of its left side, if there is an
operator. -/
def CharSet.whole (left : Option CharSet) (sets : List CharSet) : CharSet :=
  match left with
  | some left => .combined left (.ofList sets.reverse)
  | none => .ofList sets.reverse

/-- The text behind the hyphens in front, and a set for each. -/
def readHyphens (verbose : Bool) : Nat → List Char → List CharSet × List Char
  | fuel + 1, '-' :: rest =>
    let (hyphens, rest) := readHyphens verbose fuel (skipIgnored verbose rest)
    (.literal { char := '-' } :: hyphens, rest)
  | _, text => ([], text)

/-- What stands in front of the proper content of brackets: a sign for the complement, and hyphens
or a closing bracket, which stand for themselves. -/
def readOpening (verbose : Bool) (text : List Char) : Bool × List CharSet × List Char :=
  let (negated, text) :=
    match skipIgnored verbose text with
    | '^' :: rest => (true, skipIgnored verbose rest)
    | text => (false, text)
  match readHyphens verbose text.length text with
  | ([], ']' :: rest) => (negated, [.literal { char := ']' }], rest)
  | (hyphens, rest) => (negated, hyphens, rest)

/-- The content of brackets up to the closing one, given the left side of the last operator and, in
reverse, the sets read behind it. -/
def readSet (verbose : Bool) :
    Nat → Option CharSet → List CharSet → List Char → Option (CharSet × List Char)
  | 0, _, _, _ => none
  | fuel + 1, left, sets, text =>
    match skipIgnored verbose text with
    | [] => none
    | ']' :: rest => some (.whole left sets, rest)
    | '[' :: rest =>
      match readNamed rest with
      | some (set, rest) => readSet verbose fuel left (set :: sets) rest
      | none => do
        let (negated, inner, rest) := readOpening verbose rest
        let (set, rest) ← readSet verbose fuel none inner rest
        readSet verbose fuel left (.nested negated set :: sets) rest
    | '&' :: '&' :: rest => readSet verbose fuel (some (.whole left sets)) [] rest
    | '-' :: '-' :: rest => readSet verbose fuel (some (.whole left sets)) [] rest
    | '~' :: '~' :: rest => readSet verbose fuel (some (.whole left sets)) [] rest
    | text => do
      let (set, rest) ← readRange verbose text
      readSet verbose fuel left (set :: sets) rest

/-! ## Groups -/

/-- Whether a text between a question mark and a colon or parenthesis is a list of switches. Those
behind a hyphen are switched off. -/
def areSwitches (text : List Char) : Bool :=
  text.all ("imsUuRx-".toList.contains ·) && decide text.Nodup && text.getLast? ≠ some '-'

/-- Whether a list of switches has one that is switched on or off. -/
def switched? (switch : Char) (text : List Char) : Option Bool :=
  if text.contains switch then some (!(text.takeWhile (· ≠ switch)).contains '-') else none

/-- What an opening parenthesis opens. -/
inductive Opening
  /-- Nothing: it only switches something for what follows. -/
  | switches (switches : List Char)
  /-- A group, which may have a name. -/
  | group (switches name : List Char)

/-- Whether a text can be the name of a group. -/
def isGroupName : List Char → Bool
  | [] => false
  | c :: rest =>
    (c = '_' || isAlphabetic c) && rest.all fun c => "_.[]".toList.contains c || isAlphanumeric c

/-- The name of a group and its closing bracket. -/
def readGroupName (text : List Char) : Option (Opening × List Char) :=
  let name := text.takeWhile (· ≠ '>')
  match text.dropWhile (· ≠ '>') with
  | _ :: rest => if isGroupName name then some (.group [] name, rest) else none
  | [] => none

/-- What stands behind an opening parenthesis and says what it opens. -/
def readParenthesis : List Char → Option (Opening × List Char)
  | '?' :: 'P' :: '<' :: rest => readGroupName rest
  | '?' :: '<' :: rest => readGroupName rest
  | '?' :: rest =>
    let isEnd := fun c => c = ':' || c = ')'
    let switches := rest.takeWhile (!isEnd ·)
    if areSwitches switches then
      match rest.dropWhile (!isEnd ·) with
      | ':' :: rest => some (.group switches [], rest)
      | ')' :: rest => if switches = [] then none else some (.switches switches, rest)
      | _ => none
    else none
  | rest => some (.group [] [], rest)

/-! ## Patterns -/

/-- What a reader of patterns knows. -/
structure Reader where
  /-- The names of groups so far. -/
  names : List (List Char) := []
  /-- Whether the verbose mode is on. -/
  verbose : Bool := false
  /-- The text from where it stands. -/
  rest : List Char

/-- The pattern of patterns one after the other. -/
def ofSequence : List Pattern → Pattern
  | [] => .empty
  | [pattern] => pattern
  | patterns => .sequence patterns

/-- The pattern of which there are several to choose from, or one. -/
def ofChoice : List Pattern → Pattern
  | [pattern] => pattern
  | patterns => .choice patterns

/-- The last of some patterns in reverse, repeated, and the others. A switch cannot be repeated. -/
def repeatLast : List Pattern → Option (List Pattern)
  | [] => none
  | .setting _ :: _ => none
  | last :: others => some (.repeated last :: others)

/-- The text behind a sign of repetition, which a question mark can follow. -/
def behindRepetition : List Char → List Char
  | '?' :: rest => rest
  | rest => rest

mutual

/-- The patterns to choose from, up to the end or to a closing parenthesis. -/
def readChoices : Nat → Reader → Option (List Pattern × Reader)
  | 0, _ => none
  | fuel + 1, reader => do
    let (patterns, reader) ← readSequence fuel [] reader
    match reader.rest with
    | '|' :: rest =>
      let (others, reader) ← readChoices fuel { reader with rest }
      return (ofSequence patterns :: others, reader)
    | _ => return ([ofSequence patterns], reader)

/-- The patterns one after the other, up to the end of a choice. Those read so far are given in
reverse. -/
def readSequence : Nat → List Pattern → Reader → Option (List Pattern × Reader)
  | 0, _, _ => none
  | fuel + 1, before, reader =>
    match skipIgnored reader.verbose reader.rest with
    | [] => some (before.reverse, { reader with rest := [] })
    | '|' :: rest => some (before.reverse, { reader with rest := '|' :: rest })
    | ')' :: rest => some (before.reverse, { reader with rest := ')' :: rest })
    | '(' :: rest => do
      match ← readParenthesis (skipIgnored reader.verbose rest) with
      | (.switches switches, rest) =>
        let verbose := (switched? 'x' switches).getD reader.verbose
        readSequence fuel (.setting (switched? 'u' switches) :: before)
          { reader with verbose, rest }
      | (.group switches name, rest) =>
        if name ≠ [] ∧ reader.names.contains name then none
        else
          let names := if name = [] then reader.names else name :: reader.names
          let verbose := (switched? 'x' switches).getD reader.verbose
          let (choices, inner) ← readChoices fuel { names, verbose, rest }
          match inner.rest with
          | ')' :: rest =>
            -- The verbose mode is as before behind the group.
            readSequence fuel (.group (switched? 'u' switches) (ofChoice choices) :: before)
              { reader with names := inner.names, rest }
          | _ => none
    | '[' :: rest => do
      let (negated, inner, rest) := readOpening reader.verbose rest
      let (set, rest) ← readSet reader.verbose (rest.length + 1) none inner rest
      readSequence fuel (.brackets negated set :: before) { reader with rest }
    | '?' :: rest => do
      readSequence fuel (← repeatLast before) { reader with rest := behindRepetition rest }
    | '*' :: rest => do
      readSequence fuel (← repeatLast before) { reader with rest := behindRepetition rest }
    | '+' :: rest => do
      readSequence fuel (← repeatLast before) { reader with rest := behindRepetition rest }
    -- A brace would count repetitions, and nothing could close it.
    | '{' :: _ => none
    | '.' :: rest => readSequence fuel (.dot :: before) { reader with rest }
    | '^' :: rest => readSequence fuel (.edge false :: before) { reader with rest }
    | '$' :: rest => readSequence fuel (.edge false :: before) { reader with rest }
    | text => do
      let (atom, rest) ← readAtom reader.verbose text
      readSequence fuel (atom.toPattern :: before) { reader with rest }

end

/-- The pattern that a text is, if it can be used. The text has no closing brace. -/
def ofText (text : List Char) : Option Pattern := do
  let (choices, reader) ← readChoices (2 * text.length + 2) { rest := text }
  let pattern := ofChoice choices
  if reader.rest = [] ∧ pattern.isUsable then return pattern else none

end CodeAtlas.Pattern
