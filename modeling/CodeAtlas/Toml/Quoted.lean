import CodeAtlas.Text.Hex
import CodeAtlas.Toml

/-!
# Quoted text in TOML

Text is quoted in four ways. Between double quotes a backslash starts an escape, and between single
quotes it stands for itself. With three quotes at either end the text may have several lines, and up
to two more quotes may stand in front of the last three. Control characters other than the tab do
not occur in any of them. Each reader starts behind the opening quotes and returns the text and what
follows the closing quotes.
-/

namespace CodeAtlas.Toml

open Text (charOfHex)

/-! ## Escapes -/

/-- Whether a character may stand in quoted text: no control character but the tab. -/
def isPrintable (c : Char) : Bool :=
  c = '\t' || (0x20 ≤ c.toNat && c.toNat ≠ 0x7f)

/-- The character of an escape, read behind its backslash, and the text behind the escape. -/
def readEscape : List Char → Option (Char × List Char)
  | 'b' :: rest => some ('\x08', rest)
  | 't' :: rest => some ('\t', rest)
  | 'n' :: rest => some ('\n', rest)
  | 'f' :: rest => some ('\x0c', rest)
  | 'r' :: rest => some ('\r', rest)
  | 'e' :: rest => some ('\x1b', rest)
  | '"' :: rest => some ('"', rest)
  | '\\' :: rest => some ('\\', rest)
  | 'x' :: a :: b :: rest => do
    let c ← charOfHex [a, b]
    return (c, rest)
  | 'u' :: a :: b :: c :: d :: rest => do
    let c ← charOfHex [a, b, c, d]
    return (c, rest)
  | 'U' :: a :: b :: c :: d :: e :: f :: g :: h :: rest => do
    let c ← charOfHex [a, b, c, d, e, f, g, h]
    return (c, rest)
  | _ => none

/-! ## Blanks and line breaks -/

/-- The text behind a line break. -/
def afterBreak? : List Char → Option (List Char)
  | '\n' :: rest => some rest
  | '\r' :: '\n' :: rest => some rest
  | _ => none

/-- The text behind spaces and tabs. -/
def skipBlank (text : List Char) : List Char :=
  text.dropWhile fun c => c = ' ' || c = '\t'

/-- The text behind spaces, tabs and line breaks, of which at most `fuel` are passed. -/
def skipLines : Nat → List Char → List Char
  | 0, text => text
  | fuel + 1, text =>
    let text := skipBlank text
    match afterBreak? text with
    | some rest => skipLines fuel rest
    | none => text

/-! ## The four kinds of quotes -/

/-- Text between double quotes on one line. -/
def readBasic : Nat → List Char → Option (List Char × List Char)
  | 0, _ => none
  | _ + 1, [] => none
  | _ + 1, '"' :: rest => some ([], rest)
  | fuel + 1, '\\' :: rest => do
    let (c, rest) ← readEscape rest
    let (text, rest) ← readBasic fuel rest
    return (c :: text, rest)
  | fuel + 1, c :: rest =>
    if isPrintable c then do
      let (text, rest) ← readBasic fuel rest
      return (c :: text, rest)
    else none

/-- Text between single quotes on one line. -/
def readLiteral : List Char → Option (List Char × List Char)
  | [] => none
  | c :: rest =>
    if c = '\x27' then some ([], rest)
    else if isPrintable c then do
      let (text, rest) ← readLiteral rest
      return (c :: text, rest)
    else none

/-- The text behind the closing quotes, read at a run of at least three quotes, with the quotes of
the run that still belong to the text. -/
def closeQuotes (quote : Char) (text : List Char) : Option (List Char × List Char) :=
  let run := min 5 (text.takeWhile (· = quote)).length
  if 3 ≤ run then some (List.replicate (run - 3) quote, text.drop run) else none

/-- Text between triple double quotes. A backslash at the end of a line joins it with the next
character that is no white space. -/
def readBasicLines : Nat → List Char → Option (List Char × List Char)
  | 0, _ => none
  | _ + 1, [] => none
  | fuel + 1, c :: rest =>
    match closeQuotes '"' (c :: rest) with
    | some closed => some closed
    | none =>
      if c = '\\' then
        match afterBreak? (skipBlank rest) with
        | some next => readBasicLines fuel (skipLines next.length next)
        | none => do
          let (c, rest) ← readEscape rest
          let (text, rest) ← readBasicLines fuel rest
          return (c :: text, rest)
      else
        match afterBreak? (c :: rest) with
        | some next => do
          let (text, rest) ← readBasicLines fuel next
          return ('\n' :: text, rest)
        | none =>
          if isPrintable c then do
            let (text, rest) ← readBasicLines fuel rest
            return (c :: text, rest)
          else none

/-- Text between triple single quotes. -/
def readLiteralLines : Nat → List Char → Option (List Char × List Char)
  | 0, _ => none
  | _ + 1, [] => none
  | fuel + 1, c :: rest =>
    match closeQuotes '\x27' (c :: rest) with
    | some closed => some closed
    | none =>
      match afterBreak? (c :: rest) with
      | some next => do
        let (text, rest) ← readLiteralLines fuel next
        return ('\n' :: text, rest)
      | none =>
        if isPrintable c then do
          let (text, rest) ← readLiteralLines fuel rest
          return (c :: text, rest)
        else none

/-- A text without the line break in front. -/
def dropBreak (text : List Char) : List Char :=
  (afterBreak? text).getD text

/-- Quoted text of any kind, read at its opening quotes. -/
def readText : List Char → Option (List Char × List Char)
  | '"' :: '"' :: '"' :: rest => readBasicLines (rest.length + 1) (dropBreak rest)
  | '"' :: rest => readBasic (rest.length + 1) rest
  | '\x27' :: '\x27' :: '\x27' :: rest => readLiteralLines (rest.length + 1) (dropBreak rest)
  | '\x27' :: rest => readLiteral rest
  | _ => none

end CodeAtlas.Toml
