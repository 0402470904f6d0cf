/-!
# JSON tokens — cutting a text into words

A JSON text is cut into punctuation, literals, numbers and strings; blanks between them are dropped.
Numbers keep their spelling, because what is asked of a number differs from place to place.  A
string becomes its pieces: plain characters, and the 16-bit units of its `\u` escapes, of which two
may stand for one character.  Whether units pair up is asked only where the string's value is needed
(`Json.characters?`).

* `Json.tokens?`: the tokens of a text, unless some part of it is no token.
-/

namespace FlowOffload.Json

/-- A piece of a string. -/
inductive Piece where
  /-- A character, written as itself or as one of the short escapes. -/
  | char (c : Char)
  /-- A 16-bit unit, written as `\u` and four digits. -/
  | unit (u : Nat)
deriving DecidableEq

/-- A word of a JSON text. -/
inductive Token where
  /-- Opens an object. -/
  | openBrace
  /-- Closes an object. -/
  | closeBrace
  /-- Opens an array. -/
  | openBracket
  /-- Closes an array. -/
  | closeBracket
  /-- Stands between a name and its value. -/
  | colon
  /-- Stands between members or elements. -/
  | comma
  /-- The literal `null`. -/
  | null
  /-- The literals `true` and `false`. -/
  | bool (b : Bool)
  /-- A number as it is spelled. -/
  | number (spelling : List Char)
  /-- A string in pieces. -/
  | text (pieces : List Piece)
deriving DecidableEq

/-- The characters that may stand between tokens. -/
def isBlank (c : Char) : Bool := c = ' ' || c = '\n' || c = '\t' || c = '\r'

/-- The value of a hexadecimal digit. -/
def hexDigit? (c : Char) : Option Nat :=
  if c.isDigit then some (c.toNat - 48)
  else if 'a' ≤ c ∧ c ≤ 'f' then some (c.toNat - 87)
  else if 'A' ≤ c ∧ c ≤ 'F' then some (c.toNat - 55)
  else none

/-- The value of four hexadecimal digits. -/
def unit? (a b c d : Char) : Option Nat := do
  return ((((← hexDigit? a) * 16 + (← hexDigit? b)) * 16 + (← hexDigit? c)) * 16 + (← hexDigit? d))

/-- The character that a backslash and one letter stand for. -/
def shortEscape? : Char → Option Char
  | '"' => some '"'
  | '\\' => some '\\'
  | '/' => some '/'
  | 'b' => some '\x08'
  | 'f' => some '\x0c'
  | 'n' => some '\n'
  | 'r' => some '\r'
  | 't' => some '\t'
  | _ => none

/-! ### Strings -/

/-- Adds a piece in front of a string's pieces. -/
def addPiece (p : Piece) (r : List Piece × List Char) : List Piece × List Char := (p :: r.1, r.2)

/-- The pieces of a string up to its closing quote, and the text behind the quote.  Control
characters must be escaped. -/
def string? : List Char → Option (List Piece × List Char)
  | '"' :: r => some ([], r)
  | '\\' :: 'u' :: a :: b :: c :: d :: r => do
    let u ← unit? a b c d
    return addPiece (.unit u) (← string? r)
  | '\\' :: e :: r => do
    let c ← shortEscape? e
    return addPiece (.char c) (← string? r)
  | c :: r => if c = '\\' ∨ c < ' ' then none else (string? r).map (addPiece (.char c))
  | [] => none

/-- The characters of a string's pieces.  A high surrogate needs a low one right behind it, and a
low one alone is refused. -/
def characters? : List Piece → Option (List Char)
  | [] => some []
  | .char c :: r => (characters? r).map (c :: ·)
  | .unit u :: r =>
    if u < 0xD800 ∨ 0xE000 ≤ u then (characters? r).map (Char.ofNat u :: ·)
    else if u < 0xDC00 then
      match r with
      | .unit v :: r =>
        if 0xDC00 ≤ v ∧ v < 0xE000 then
          (characters? r).map (Char.ofNat (0x10000 + (u - 0xD800) * 0x400 + (v - 0xDC00)) :: ·)
        else none
      | _ => none
    else none

/-! ### Numbers -/

/-- The leading digits of a text and the text behind them. -/
def digits (cs : List Char) : List Char × List Char :=
  (cs.takeWhile Char.isDigit, cs.dropWhile Char.isDigit)

/-- One or more digits. -/
def digits1? (cs : List Char) : Option (List Char × List Char) :=
  if (digits cs).1 = [] then none else some (digits cs)

/-- The whole part of a number: a zero, or digits that do not start with one. -/
def whole? : List Char → Option (List Char × List Char)
  | '0' :: r => some (['0'], r)
  | cs => digits1? cs

/-- The fraction of a number, which may be missing. -/
def fraction? : List Char → Option (List Char × List Char)
  | '.' :: r => (digits1? r).map fun p => ('.' :: p.1, p.2)
  | cs => some ([], cs)

/-- The sign of an exponent, which may be missing. -/
def exponentSign : List Char → List Char × List Char
  | '+' :: r => (['+'], r)
  | '-' :: r => (['-'], r)
  | cs => ([], cs)

/-- The exponent of a number, which may be missing. -/
def exponent? : List Char → Option (List Char × List Char)
  | c :: r =>
    if c = 'e' ∨ c = 'E' then
      (digits1? (exponentSign r).2).map fun p => (c :: (exponentSign r).1 ++ p.1, p.2)
    else some ([], c :: r)
  | [] => some ([], [])

/-- A number without its sign: its spelling and the text behind it. -/
def unsigned? (cs : List Char) : Option (List Char × List Char) := do
  let (w, cs) ← whole? cs
  let (f, cs) ← fraction? cs
  let (e, cs) ← exponent? cs
  return (w ++ f ++ e, cs)

/-- A number: its spelling and the text behind it. -/
def number? : List Char → Option (List Char × List Char)
  | '-' :: r => (unsigned? r).map fun p => ('-' :: p.1, p.2)
  | cs => unsigned? cs

/-! ### Tokens -/

/-- The first token of a text that starts with one, and the text behind it. -/
def token? : List Char → Option (Token × List Char)
  | '\x7b' :: r => some (.openBrace, r)
  | '\x7d' :: r => some (.closeBrace, r)
  | '[' :: r => some (.openBracket, r)
  | ']' :: r => some (.closeBracket, r)
  | ':' :: r => some (.colon, r)
  | ',' :: r => some (.comma, r)
  | 'n' :: 'u' :: 'l' :: 'l' :: r => some (.null, r)
  | 't' :: 'r' :: 'u' :: 'e' :: r => some (.bool true, r)
  | 'f' :: 'a' :: 'l' :: 's' :: 'e' :: r => some (.bool false, r)
  | '"' :: r => (string? r).map fun p => (.text p.1, p.2)
  | cs => (number? cs).map fun p => (.number p.1, p.2)

/-! Every token takes at least one character, so cutting a text up comes to an end. -/

/-- A string takes up at least its closing quote. -/
theorem length_string? : ∀ {cs : List Char} {p : List Piece × List Char},
    string? cs = some p → p.2.length < cs.length := by
  intro cs
  fun_induction string? cs with
  | case1 r => simp +contextual [Prod.ext_iff]
  | case2 a b c d r ih =>
    intro p h
    simp only [bind, Option.bind_eq_some_iff, pure, Option.some.injEq] at h
    obtain ⟨u, -, q, hq, rfl⟩ := h
    have := ih hq
    simp [addPiece]; omega
  | case3 e r _ ih =>
    intro p h
    simp only [bind, Option.bind_eq_some_iff, pure, Option.some.injEq] at h
    obtain ⟨u, -, q, hq, rfl⟩ := h
    have := ih hq
    simp [addPiece]; omega
  | case4 => simp
  | case5 c r _ _ _ _ ih =>
    intro p h
    obtain ⟨q, hq, rfl⟩ := Option.map_eq_some_iff.mp h
    have := ih hq
    simp [addPiece]; omega
  | case6 => simp

/-- A run of digits takes up at least one character. -/
theorem length_digits1? {cs : List Char} {p : List Char × List Char} (h : digits1? cs = some p) :
    p.2.length < cs.length := by
  have hl := congrArg List.length (List.takeWhile_append_dropWhile (p := Char.isDigit) (l := cs))
  by_cases hne : (digits cs).1 = []
  · simp [digits1?, hne] at h
  · obtain rfl : digits cs = p := by simpa [digits1?, hne] using h
    have := List.length_pos_iff.mpr hne
    simp only [digits, List.length_append] at this hl ⊢
    omega

theorem length_whole? {cs : List Char} {p : List Char × List Char} (h : whole? cs = some p) :
    p.2.length < cs.length := by
  unfold whole? at h
  split at h
  · cases h; simp
  · exact length_digits1? h

/-- A fraction leaves no more than there was; it may be missing. -/
theorem length_fraction? {cs : List Char} {p : List Char × List Char} (h : fraction? cs = some p) :
    p.2.length ≤ cs.length := by
  unfold fraction? at h
  split at h
  · obtain ⟨q, hq, rfl⟩ := Option.map_eq_some_iff.mp h
    have := length_digits1? hq
    simp only [List.length_cons]; omega
  · cases h; simp

theorem length_exponentSign (cs : List Char) : (exponentSign cs).2.length ≤ cs.length := by
  unfold exponentSign
  split <;> simp

/-- So may an exponent. -/
theorem length_exponent? {cs : List Char} {p : List Char × List Char} (h : exponent? cs = some p) :
    p.2.length ≤ cs.length := by
  unfold exponent? at h
  split at h
  · next c r =>
    split at h
    · obtain ⟨q, hq, rfl⟩ := Option.map_eq_some_iff.mp h
      have := length_digits1? hq
      have := length_exponentSign r
      simp only [List.length_cons]; omega
    · cases h; simp
  · cases h; simp

theorem length_unsigned? {cs : List Char} {p : List Char × List Char} (h : unsigned? cs = some p) :
    p.2.length < cs.length := by
  simp only [unsigned?, bind, Option.bind_eq_some_iff, pure, Option.some.injEq] at h
  obtain ⟨w, hw, f, hf, e, he, rfl⟩ := h
  have := length_whole? hw
  have := length_fraction? hf
  have := length_exponent? he
  simp only
  omega

/-- A number takes up at least one character. -/
theorem length_number? {cs : List Char} {p : List Char × List Char} (h : number? cs = some p) :
    p.2.length < cs.length := by
  unfold number? at h
  split at h
  · obtain ⟨q, hq, rfl⟩ := Option.map_eq_some_iff.mp h
    have := length_unsigned? hq
    simp only [List.length_cons]; omega
  · exact length_unsigned? h

/-- So does every token, which is why cutting a text into tokens ends. -/
theorem length_token? {cs : List Char} {p : Token × List Char} (h : token? cs = some p) :
    p.2.length < cs.length := by
  unfold token? at h
  split at h
  case h_10 r =>
    obtain ⟨q, hq, rfl⟩ := Option.map_eq_some_iff.mp h
    have := length_string? hq
    simp only [List.length_cons]; omega
  case h_11 =>
    obtain ⟨q, hq, rfl⟩ := Option.map_eq_some_iff.mp h
    exact length_number? hq
  all_goals
    cases h
    simp only [List.length_cons]
    omega

/-- The tokens of a text. -/
def tokens? (cs : List Char) : Option (List Token) :=
  match cs with
  | [] => some []
  | c :: r =>
    if isBlank c then tokens? r
    else
      match _h : token? (c :: r) with
      | none => none
      | some (t, rest) => (tokens? rest).map (t :: ·)
termination_by cs.length
decreasing_by
  · simp
  · exact length_token? ‹_›

end FlowOffload.Json
