import CodeAtlas.Text.Printable

/-!
# Quoted text

Messages show the text they complain about between double quotes, or a single character between
single quotes. Inside, the five layout characters with a short name are written as a backslash and
that name, the surrounding quote and the backslash as themselves behind a backslash, and every
character that cannot be shown as its code point in hexadecimal. All else stands for itself.
-/

namespace CodeAtlas.Text

/-- The code point of a character in braces, in lower-case hexadecimal without leading zeros. -/
def codePoint (c : Char) : List Char :=
  ['\\', 'u', '{'] ++ Nat.toDigits 16 c.toNat ++ ['}']

/-- One character as it is written between quotes of the kind `quote`. -/
def quoteChar (quote c : Char) : List Char :=
  if c = '\t' then ['\\', 't']
  else if c = '\r' then ['\\', 'r']
  else if c = '\n' then ['\\', 'n']
  else if c = '\x00' then ['\\', '0']
  else if c = '\\' || c = quote then ['\\', c]
  else if isShowable c then [c]
  else codePoint c

/-- A text between double quotes. -/
def quoted (text : List Char) : String :=
  String.ofList ('"' :: text.flatMap (quoteChar '"') ++ ['"'])

/-- A graphic character of ASCII stands for itself, unless it is the quote or the backslash. -/
theorem quoteChar_of_graphic {quote c : Char} (hlow : 0x20 ≤ c.toNat) (hhigh : c.toNat ≤ 0x7e)
    (hquote : c ≠ quote) (hbackslash : c ≠ '\\') : quoteChar quote c = [c] := by
  have hshowable : isShowable c = true := by
    have h := isShowable_ascii c.toNat (by omega)
    rw [Char.ofNat_toNat] at h
    rw [h]
    exact decide_eq_true ⟨hlow, hhigh⟩
  -- The characters with a short name are controls.
  have hcontrol : ∀ d : Char, d.toNat < 0x20 → c ≠ d := by
    rintro d hd rfl
    omega
  unfold quoteChar
  rw [if_neg (hcontrol _ (by decide)), if_neg (hcontrol _ (by decide)),
    if_neg (hcontrol _ (by decide)), if_neg (hcontrol _ (by decide)),
    if_neg (by simp [hquote, hbackslash]), if_pos hshowable]

/-- Graphic characters of ASCII stand for themselves between double quotes, unless one is a double
quote or a backslash. -/
theorem quoted_of_graphic {text : List Char}
    (h : ∀ c ∈ text, 0x20 ≤ c.toNat ∧ c.toNat ≤ 0x7e ∧ c ≠ '"' ∧ c ≠ '\\') :
    quoted text = "\"" ++ String.ofList text ++ "\"" := by
  have hchars : text.flatMap (quoteChar '"') = text := by
    induction text with
    | nil => rfl
    | cons c rest ih =>
      obtain ⟨⟨hlow, hhigh, hquote, hbackslash⟩, hrest⟩ := List.forall_mem_cons.mp h
      rw [List.flatMap_cons, quoteChar_of_graphic hlow hhigh hquote hbackslash, ih hrest]
      rfl
  unfold quoted
  rw [hchars, ← List.singleton_append, String.ofList_append, String.ofList_append]

/-- A character between single quotes. -/
def quotedChar (c : Char) : String :=
  String.ofList ('\x27' :: quoteChar '\x27' c ++ ['\x27'])

end CodeAtlas.Text
