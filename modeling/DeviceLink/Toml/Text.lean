import DeviceLink.Text.Hexadecimal
/-!
# TOML — texts

The four ways a text is written between quotes, and the blanks, line ends and
comments between values. Each reader takes the characters that follow and
returns what it read with what is left; it fails where the format has no such
text. A text over several lines loses the line end right after its opening
quotes, and its line ends are all read as one character.
-/

namespace DeviceLink

namespace Toml

/-! ## Characters -/

/-- The blanks within a line. -/
def isBlank (c : Char) : Bool := c == ' ' || c == '\t'

/-- The characters a comment may hold. -/
def isComment (c : Char) : Bool :=
  c == '\t' || (0x20 ≤ c.toNat && c.toNat ≤ 0x7e) || 0x80 ≤ c.toNat

/-- The characters that stand for themselves between double quotes. -/
def isBasic (c : Char) : Bool := isComment c && c != '"' && c != '\\'

/-- The characters that stand for themselves between single quotes. -/
def isLiteral (c : Char) : Bool := isComment c && c != '\''

/-- The characters of a key without quotes. -/
def isBare (c : Char) : Bool := c.isAlphanum || c == '-' || c == '_'

/-! ## Gaps -/

/-- What follows a line end, if there is one here. -/
def newline? : List Char → Option (List Char)
  | '\n' :: r => some r
  | '\r' :: '\n' :: r => some r
  | _ => none

/-- What follows the rest of a line that holds nothing more than a comment. -/
def lineEnd? (cs : List Char) : Option (List Char) :=
  let afterBlanks := cs.dropWhile isBlank
  let rest :=
    match afterBlanks with
    | '#' :: r => r.dropWhile isComment
    | r => r
  match rest with
  | [] => some []
  | r => newline? r

/-- What follows the blanks, line ends and comments between the items of an
array. `inComment` tells whether the reader is in a comment. -/
def gap? : Bool → List Char → Option (List Char)
  | false, '#' :: r => gap? true r
  | false, c :: r =>
    if isBlank c || c == '\n' then gap? false r
    else if c == '\r' then
      match r with
      | '\n' :: s => gap? false s
      | _ => none
    else some (c :: r)
  | false, [] => some []
  | true, '\n' :: r => gap? false r
  | true, '\r' :: '\n' :: r => gap? false r
  | true, c :: r => if isComment c then gap? true r else none
  | true, [] => none

/-! ## Escapes -/

/-- The character of a hexadecimal number, if it is one. -/
def hexChar? (ds : List Char) : Option Char := do
  let n ← ds.foldlM (fun n d => (Text.hexValue? d).map (16 * n + ·)) 0
  if h : n.isValidChar then some ⟨UInt32.ofNat n, by
    have hlt : n < UInt32.size := by
      rcases h with h | h
      · exact Nat.lt_trans h (by decide)
      · exact Nat.lt_trans h.2 (by decide)
    simpa [UInt32.isValidChar, UInt32.toNat_ofNat_of_lt' hlt] using h⟩
  else none

/-- The character an escape of one letter stands for. -/
def escape? : Char → Option Char
  | 'b' => some '\x08'
  | 't' => some '\t'
  | 'n' => some '\n'
  | 'f' => some '\x0c'
  | 'r' => some '\r'
  | '"' => some '"'
  | '\\' => some '\\'
  | _ => none

/-- Put a character before the text that was read after it. -/
def push (c : Char) : Option (List Char × List Char) → Option (List Char × List Char) :=
  Option.map fun p => (c :: p.1, p.2)

/-! ## Texts on one line -/

/-- The rest of a text between double quotes. -/
def basic? : List Char → Option (List Char × List Char)
  | '"' :: r => some ([], r)
  | '\\' :: 'u' :: a :: b :: c :: d :: r => do push (← hexChar? [a, b, c, d]) (basic? r)
  | '\\' :: 'U' :: a :: b :: c :: d :: e :: f :: g :: h :: r => do
    push (← hexChar? [a, b, c, d, e, f, g, h]) (basic? r)
  | '\\' :: c :: r => do push (← escape? c) (basic? r)
  | c :: r => if isBasic c then push c (basic? r) else none
  | [] => none

/-- The rest of a text between single quotes. -/
def literal? : List Char → Option (List Char × List Char)
  | '\'' :: r => some ([], r)
  | c :: r => if isLiteral c then push c (literal? r) else none
  | [] => none

/-! ## Texts over several lines -/

/-- Up to two quotes right before the closing three belong to the text. -/
def closing (quote : Char) : List Char → List Char × List Char
  | a :: b :: r =>
    if a = quote then
      if b = quote then ([quote, quote], r) else ([quote], b :: r)
    else ([], a :: b :: r)
  | [a] => if a = quote then ([quote], []) else ([], [a])
  | [] => ([], [])

/-- Whether nothing but blanks stands before the next line end. -/
def endsLine (cs : List Char) : Bool := (newline? (cs.dropWhile isBlank)).isSome

/-- The rest of a text between three double quotes. A backslash at the end of a
line joins it with what follows the next blanks and line ends, which are passed
over while `joining`. -/
def basicLines? : Bool → List Char → Option (List Char × List Char)
  | _, '"' :: '"' :: '"' :: r => some (closing '"' r)
  | joining, '\n' :: r => if joining then basicLines? true r else push '\n' (basicLines? false r)
  | joining, '\r' :: '\n' :: r =>
    if joining then basicLines? true r else push '\n' (basicLines? false r)
  | _, '\\' :: 'u' :: a :: b :: c :: d :: r => do
    push (← hexChar? [a, b, c, d]) (basicLines? false r)
  | _, '\\' :: 'U' :: a :: b :: c :: d :: e :: f :: g :: h :: r => do
    push (← hexChar? [a, b, c, d, e, f, g, h]) (basicLines? false r)
  | _, '\\' :: c :: r =>
    if endsLine (c :: r) then basicLines? true (c :: r)
    else do push (← escape? c) (basicLines? false r)
  | joining, c :: r =>
    if joining && isBlank c then basicLines? true r
    else if c == '"' || isBasic c then push c (basicLines? false r)
    else none
  | _, [] => none

/-- The rest of a text between three single quotes. -/
def literalLines? : List Char → Option (List Char × List Char)
  | '\'' :: '\'' :: '\'' :: r => some (closing '\'' r)
  | '\n' :: r => push '\n' (literalLines? r)
  | '\r' :: '\n' :: r => push '\n' (literalLines? r)
  | c :: r => if c == '\'' || isLiteral c then push c (literalLines? r) else none
  | [] => none

/-- What follows a line end right here, or all of it. -/
def skipNewline (cs : List Char) : List Char := (newline? cs).getD cs

/-- A text in any of its four forms. -/
def text? : List Char → Option (List Char × List Char)
  | '"' :: '"' :: '"' :: r => basicLines? false (skipNewline r)
  | '"' :: r => basic? r
  | '\'' :: '\'' :: '\'' :: r => literalLines? (skipNewline r)
  | '\'' :: r => literal? r
  | _ => none

end Toml

end DeviceLink
