import FlowOffload.Json.Pretty
import FlowOffload.Json.Token

/-!
# Written JSON — cut into the tokens it was written from

A text is cut from the front: `Json.Reads cs ts r` says that `cs` comes to the tokens `ts`, with the
text `r` still to be cut.  Literals, numbers and strings without escapes each come to their own
token; a number does so in front of a comma or a line break, where it cannot go on
(`Json.Stands`).  So an object that was written with such values comes to the tokens of its members
(`Json.tokens?_object`).
-/

namespace FlowOffload.Json

variable {c : Char} {cs ds r r' : List Char} {ts ts' : List Token} {t : Token}

/-! ### From the front -/

/-- A text is cut into some tokens and whatever the rest of it is cut into. -/
def Reads (cs : List Char) (ts : List Token) (r : List Char) : Prop :=
  tokens? cs = (tokens? r).map (ts ++ ·)

namespace Reads

theorem refl (cs : List Char) : Reads cs [] cs := by
  simp [Reads]

/-- What is left behind may be cut further. -/
theorem trans (h : Reads cs ts r) (h' : Reads r ts' r') : Reads cs (ts ++ ts') r' := by
  rw [Reads] at h h' ⊢
  rw [h, h', Option.map_map]
  refine congrArg (Option.map · _) (funext fun us => ?_)
  exact (List.append_assoc ts ts' us).symm

/-- White space comes to no token. -/
theorem blank (h : isBlank c = true) (r : List Char) : Reads (c :: r) [] r := by
  rw [Reads, tokens?, if_pos h]
  exact refl r

/-- What a token takes up is cut off as that token. -/
theorem token (hb : isBlank c = false) (h : token? (c :: cs) = some (t, r)) :
    Reads (c :: cs) [t] r := by
  rw [Reads, tokens?, if_neg (by rw [hb]; exact Bool.false_ne_true)]
  split
  · next hn => rw [h] at hn; cases hn
  · next hs =>
      rw [h] at hs
      cases hs
      rfl

/-- A text that is cut to its end comes to the tokens that were cut off. -/
theorem tokens?_eq (h : Reads cs ts []) : tokens? cs = some ts := by
  rw [h, tokens?]
  simp

end Reads

/-! ### Strings -/

/-- A character that stands for itself in a string. -/
def Plain (c : Char) : Prop := c ≠ '"' ∧ c ≠ '\\' ∧ ' ' ≤ c

instance (c : Char) : Decidable (Plain c) := inferInstanceAs (Decidable (_ ∧ _))

/-- Digits need no escape. -/
theorem plain_of_isDigit (h : c.isDigit = true) : Plain c := by
  refine ⟨?_, ?_, ?_⟩
  · rintro rfl
    exact absurd h (by decide)
  · rintro rfl
    exact absurd h (by decide)
  · have hn := (Char.isDigit_iff_toNat.mp h).1
    exact Nat.le_trans (by decide) hn

/-- A string without escapes ends at the first quote and is read as it stands. -/
theorem string?_plain (h : ∀ c ∈ cs, Plain c) (r : List Char) :
    string? (cs ++ '"' :: r) = some (cs.map .char, r) := by
  induction cs with
  | nil => rfl
  | cons c cs ih =>
      obtain ⟨⟨hq, hb, hs⟩, hcs⟩ := List.forall_mem_cons.mp h
      have hn : ¬ (c = '\\' ∨ c < ' ') := by
        rintro (h | h)
        · exact hb h
        · exact absurd hs (Char.not_le.mpr h)
      rw [List.cons_append, string?, if_neg hn, ih hcs]
      · rfl
      · exact hq
      · exact fun _ _ _ _ _ h => absurd h hb
      · exact fun _ _ h => absurd h hb

theorem characters?_plain (cs : List Char) : characters? (cs.map .char) = some cs := by
  induction cs with
  | nil => rfl
  | cons c cs ih => rw [List.map_cons, characters?, ih]; rfl

/-- A string without escapes comes to one token. -/
theorem reads_quoted (h : ∀ c ∈ cs, Plain c) (r : List Char) :
    Reads ('"' :: (cs ++ '"' :: r)) [.text (cs.map .char)] r := by
  refine .token rfl ?_
  rw [token?, string?_plain h]
  rfl

/-! ### Numbers -/

/-- Where a number cannot go on. -/
def Ends (r : List Char) : Prop := ∃ c r', r = c :: r' ∧ (c = ',' ∨ c = '\n')

/-- A token that starts with a digit is a number. -/
theorem token?_digit {d : Char} (hd : d.isDigit = true) (cs : List Char) :
    token? (d :: cs) = (number? (d :: cs)).map fun p => (.number p.1, p.2) := by
  rw [token?.eq_def]
  split
  case h_11 => rfl
  -- no other token starts with a digit
  all_goals
    next h =>
      cases h
      exact absurd hd (by decide)

/-- Digits end where a number ends. -/
theorem digits_append (hd : ∀ d ∈ ds, d.isDigit = true) (hr : Ends r) :
    digits (ds ++ r) = (ds, r) := by
  obtain ⟨c, r, rfl, hc⟩ := hr
  have hn : ¬ c.isDigit = true := by
    rcases hc with rfl | rfl <;> decide
  rw [digits, List.takeWhile_append_of_pos hd, List.dropWhile_append_of_pos hd,
    List.takeWhile_cons_of_neg hn, List.dropWhile_cons_of_neg hn, List.append_nil]

/-- Digits are a whole number if they are just a zero or do not start with one. -/
theorem whole?_digits (hne : ds ≠ []) (hd : ∀ d ∈ ds, d.isDigit = true)
    (hz : ds = ['0'] ∨ ds.head? ≠ some '0') (hr : Ends r) : whole? (ds ++ r) = some (ds, r) := by
  rcases hz with rfl | hz
  · rfl
  · obtain ⟨d, ds, rfl⟩ := List.exists_cons_of_ne_nil hne
    have hd₀ : d ≠ '0' := fun h => hz (by rw [h]; rfl)
    rw [List.cons_append, whole?]
    · rw [digits1?, ← List.cons_append, digits_append hd hr, if_neg hne]
    · exact fun _ h => hd₀ (List.cons.inj h).1

/-- Where a number ends, there is no fraction. -/
theorem fraction?_ends (hr : Ends r) : fraction? r = some ([], r) := by
  obtain ⟨c, r, rfl, rfl | rfl⟩ := hr <;> rfl

/-- Where a number ends, there is no exponent. -/
theorem exponent?_ends (hr : Ends r) : exponent? r = some ([], r) := by
  obtain ⟨c, r, rfl, rfl | rfl⟩ := hr <;> rfl

/-- Digits without a leading zero are a number, if a number may end behind them. -/
theorem number?_digits (hne : ds ≠ []) (hd : ∀ d ∈ ds, d.isDigit = true)
    (hz : ds = ['0'] ∨ ds.head? ≠ some '0') (hr : Ends r) : number? (ds ++ r) = some (ds, r) := by
  have hu : unsigned? (ds ++ r) = some (ds, r) := by
    simp only [unsigned?, whole?_digits hne hd hz hr, fraction?_ends hr, exponent?_ends hr,
      bind, pure, Option.bind_some, List.append_nil]
  obtain ⟨d, ds, rfl⟩ := List.exists_cons_of_ne_nil hne
  have hm : d ≠ '-' := by
    rintro rfl
    exact absurd (hd '-' List.mem_cons_self) (by decide)
  rw [← hu, List.cons_append, number?]
  exact fun _ h => hm (List.cons.inj h).1

theorem isBlank_digit {d : Char} (hd : d.isDigit = true) : isBlank d = false := by
  refine Bool.eq_false_iff.mpr fun h => ?_
  simp only [isBlank, Bool.or_eq_true, decide_eq_true_eq] at h
  rcases h with ((rfl | rfl) | rfl) | rfl <;> exact absurd hd (by decide)

/-- Such digits come to one token. -/
theorem reads_number (hne : ds ≠ []) (hd : ∀ d ∈ ds, d.isDigit = true)
    (hz : ds = ['0'] ∨ ds.head? ≠ some '0') (hr : Ends r) : Reads (ds ++ r) [.number ds] r := by
  have hn := number?_digits hne hd hz hr
  obtain ⟨d, ds, rfl⟩ := List.exists_cons_of_ne_nil hne
  have hd₀ : d.isDigit = true := hd d List.mem_cons_self
  rw [List.cons_append] at hn ⊢
  refine .token (isBlank_digit hd₀) ?_
  rw [token?_digit hd₀, hn]
  rfl

/-! ### Objects -/

/-- A text comes to one token wherever a value may end. -/
def Stands (cs : List Char) (t : Token) : Prop := ∀ r, Ends r → Reads (cs ++ r) [t] r

/-- The tokens of a member whose value is a single token. -/
def memberTokens (name : String) (t : Token) : List Token :=
  [.text (name.toList.map .char), .colon, t]

theorem toList_member (name value : String) : (member name value).toList =
    ' ' :: ' ' :: '"' :: (name.toList ++ '"' :: ':' :: ' ' :: value.toList) := by
  simp [member, quoted]

/-- A member of an object comes to its name, a colon and the token of its value. -/
theorem reads_member {name value : String} (hn : ∀ c ∈ name.toList, Plain c)
    (hv : Stands value.toList t) (hr : Ends r) :
    Reads ((member name value).toList ++ r) (memberTokens name t) r := by
  rw [toList_member]
  simp only [List.cons_append, List.append_assoc]
  have hval : Reads (':' :: ' ' :: (value.toList ++ r)) [.colon, t] r :=
    .trans (.token rfl rfl) (.trans (.blank rfl _) (hv r hr))
  exact .trans (.blank rfl _) (.trans (.blank rfl _) (.trans (reads_quoted hn _) hval))

section Object

variable {α : Type} {xs : List α} (name value : α → String) (token : α → Token)

/-- Members between commas come to their tokens between commas. -/
theorem reads_members (hne : xs ≠ []) (h : ∀ x ∈ xs, (∀ c ∈ (name x).toList, Plain c) ∧
      Stands (value x).toList (token x)) (r : List Char) :
    Reads ([',', '\n'].intercalate (xs.map fun x => (member (name x) (value x)).toList) ++
        '\n' :: r)
      ([.comma].intercalate (xs.map fun x => memberTokens (name x) (token x))) ('\n' :: r) := by
  induction xs with
  | nil => exact absurd rfl hne
  | cons x xs ih =>
      obtain ⟨⟨hn, hv⟩, hxs⟩ := List.forall_mem_cons.mp h
      cases xs with
      | nil =>
          simp only [List.map_cons, List.map_nil, List.intercalate_singleton]
          exact reads_member hn hv ⟨'\n', r, rfl, .inr rfl⟩
      | cons y ys =>
          have hrest := ih (List.cons_ne_nil y ys) hxs
          simp only [List.map_cons, List.intercalate_cons_cons, List.append_assoc,
            List.cons_append, List.nil_append] at hrest ⊢
          refine .trans (reads_member hn hv ⟨',', _, rfl, .inl rfl⟩) ?_
          exact .trans (.token rfl rfl) (.trans (.blank rfl _) hrest)

/-- **A written object is cut into the tokens of its members.** -/
theorem tokens?_object (hne : xs ≠ []) (h : ∀ x ∈ xs, (∀ c ∈ (name x).toList, Plain c) ∧
      Stands (value x).toList (token x)) :
    tokens? (object (xs.map fun x => (name x, value x))).toList = some (.openBrace ::
      ([.comma].intercalate (xs.map fun x => memberTokens (name x) (token x)) ++
        [.closeBrace])) := by
  have hc : Reads ['\n', '\x7d'] [.closeBrace] [] := .trans (.blank rfl _) (.token rfl rfl)
  have hm := (reads_members name value token hne h ['\x7d']).trans hc
  have ho : (object (xs.map fun x => (name x, value x))).toList = '\x7b' :: '\n' ::
      ([',', '\n'].intercalate (xs.map fun x => (member (name x) (value x)).toList)
        ++ ['\n', '\x7d']) := by
    simp [object, String.toList_intercalate, Function.comp_def]
  rw [ho]
  exact ((Reads.token rfl rfl).trans ((Reads.blank rfl _).trans hm)).tokens?_eq

end Object

end FlowOffload.Json
