import FlowOffload.Proofs.Ipv4
import FlowOffload.Proofs.Json.Pretty
import FlowOffload.Settings.Reader
import FlowOffload.Settings.Writer

/-!
# Saving settings — what is written is read

The written form of a value is one token, and the token stands for the value again
(`Settings.Value.ofToken?_token`).  A member sets its setting to what it was written from and leaves
the others alone (`Settings.readMembers_written`), so an object sets the settings that it has
members for and leaves the others at their defaults (`Settings.parse?_object`), and an object with
all of them is read as what it was written from (`Settings.parse?_render`).
-/

namespace FlowOffload.Settings

open Json (Token Stands Plain memberTokens)

variable {s s₀ s' : Settings}

/-! ### Values -/

/-- The token that a value is written as. -/
def Value.token : Value → Token
  | .number n => .number (Ipv4.digits n)
  | .address a => .text ((Ipv4.chars a).map .char)
  | .flag b => .bool b

/-- What a value is written as stands for the value. -/
theorem Value.ofToken?_token (v : Value) : Value.ofToken? v.token = some v := by
  cases v with
  | number n =>
      have hd : (Ipv4.digits n).all Char.isDigit = true :=
        List.all_eq_true.mpr fun c hc => Ipv4.isDigit_of_mem_digits hc
      rw [token, ofToken?, if_pos hd, Ipv4.digits, Nat.ofDigitChars_ten_toDigits]
  | address a =>
      simp only [token, ofToken?, Json.characters?_plain, Ipv4.parse?_chars, bind, pure,
        Option.bind_some]
  | flag b => rfl

theorem plain_of_mem_chars {a : UInt32} {c : Char} (h : c ∈ Ipv4.chars a) : Plain c := by
  rcases Ipv4.mem_chars h with h | rfl
  · exact Json.plain_of_isDigit h
  · decide

/-- A value is written so that it is cut off as its own token. -/
theorem Value.stands_render (v : Value) : Stands v.render.toList v.token := by
  intro r hr
  cases v with
  | number n =>
      rw [render, Nat.toString_eq_ofList_toDigits, String.toList_ofList]
      exact Json.reads_number Nat.toDigits_ne_nil (fun _ => Ipv4.isDigit_of_mem_digits)
        (Ipv4.digits_head n) hr
  | address a =>
      have hq : (render (.address a)).toList ++ r = '"' :: (Ipv4.chars a ++ '"' :: r) := by
        simp [render, Json.quoted, Ipv4.render]
      rw [hq]
      exact Json.reads_quoted (fun _ => plain_of_mem_chars) r
  | flag b => cases b <;> exact .token rfl rfl

/-! ### Settings one by one -/

namespace Field

/-- The names of the fields need no escape. -/
theorem plain_name (f : Field) : ∀ c ∈ f.name.toList, Plain c := by
  have h : (f.name.toList.all fun c => decide (Plain c)) = true := by
    cases f <;> rfl
  exact fun c hc => of_decide_eq_true (List.all_eq_true.mp h c hc)

/-- A field is recognized by its name. -/
theorem ofName?_name (f : Field) : ofName? f.name.toList = some f := by
  simp only [ofName?, String.toList_inj]
  cases f <;> rfl

end Field

theorem Value.word16?_toNat (w : UInt16) : Value.word16? (.number w.toNat) = some w := by
  rw [word16?, if_pos w.toNat_lt_size, UInt16.ofNat_toNat]

theorem Value.word32?_toNat (w : UInt32) : Value.word32? (.number w.toNat) = some w := by
  rw [word32?, if_pos w.toNat_lt_size, UInt32.ofNat_toNat]

theorem Value.word64?_toNat (w : UInt64) : Value.word64? (.number w.toNat) = some w := by
  rw [word64?, if_pos w.toNat_lt_size, UInt64.ofNat_toNat]

/-- Every setting can be set to what it is set to elsewhere. -/
theorem assign_value (s₀ s : Settings) (f : Field) : ∃ s', s₀.assign f (s.value f) = some s' ∧
    ∀ g, s'.value g = if g = f then s.value g else s₀.value g := by
  -- every setting that is set, against every one that is looked at
  cases f <;>
    simp only [assign, value, Value.word16?_toNat, Value.word32?_toNat, Value.word64?_toNat,
      Value.address?, Value.flag?, Option.map_some, Option.some.injEq, exists_eq_left'] <;>
    intro g <;> cases g <;> rfl

/-- Settings are determined by what their fields are set to. -/
theorem eq_of_value_eq (h : ∀ f, s.value f = s'.value f) : s = s' := by
  have h₁₆ {v w : UInt16} (h : Value.number v.toNat = .number w.toNat) : v = w :=
    UInt16.toNat_inj.mp (Value.number.inj h)
  have h₃₂ {v w : UInt32} (h : Value.number v.toNat = .number w.toNat) : v = w :=
    UInt32.toNat_inj.mp (Value.number.inj h)
  have h₆₄ {v w : UInt64} (h : Value.number v.toNat = .number w.toNat) : v = w :=
    UInt64.toNat_inj.mp (Value.number.inj h)
  cases s
  cases s'
  rw [mk.injEq]
  exact ⟨h₁₆ (h .portId), h₁₆ (h .rxQueues), h₆₄ (h .engineThreads), h₆₄ (h .burstSize),
    h₆₄ (h .engineBatchSize), h₆₄ (h .offloadThreshold), h₃₂ (h .flowIdleTimeoutSecs),
    h₆₄ (h .flowTableCapacity), h₆₄ (h .handoffQueueCapacity), h₁₆ (h .portPoolBase),
    h₆₄ (h .portPoolSize), Value.address.inj (h .natAddr), h₆₄ (h .agedBatchSize),
    h₆₄ (h .agingDeferMs), Value.flag.inj (h .releasePortsOnEviction), h₆₄ (h .latencySamples)⟩

/-- A field is read back from the token that it was written as. -/
theorem readField_token (s₀ s : Settings) (f : Field) :
    s₀.readField f (s.value f).token = s₀.assign f (s.value f) := by
  rw [readField, Value.ofToken?_token]
  rfl

/-! ### Members -/

section Member

variable {f : Field} {seen : List Field} {t : Token}

/-- The last member is read, and the object ends. -/
theorem readMembers_last (hf : f ∉ seen) (hr : s₀.readField f t = some s') :
    readMembers s₀ seen (memberTokens f.name t ++ [.closeBrace]) = some s' := by
  simp only [memberTokens, List.cons_append, List.nil_append]
  rw [readMembers]
  simp only [Json.characters?_plain, Field.ofName?_name, if_neg hf, hr]

/-- A member in front of a comma is read, and then the next one. -/
theorem readMembers_comma (hf : f ∉ seen) (hr : s₀.readField f t = some s') (r : List Token) :
    readMembers s₀ seen (memberTokens f.name t ++ .comma :: r) =
      readMembers s' (f :: seen) r := by
  simp only [memberTokens, List.cons_append, List.nil_append]
  rw [readMembers]
  simp only [Json.characters?_plain, Field.ofName?_name, if_neg hf, hr]

end Member

/-- The members of some settings, one after the other. -/
def written (s : Settings) (fs : List Field) : List Token :=
  [.comma].intercalate (fs.map fun f => memberTokens f.name (s.value f).token)

/-- **What is written is read**: the settings among the members get their values, the others
stay. -/
theorem readMembers_written (s : Settings) {fs seen : List Field} (hne : fs ≠ [])
    (hd : fs.Nodup) (hs : ∀ f ∈ fs, f ∉ seen) (s₀ : Settings) :
    ∃ s', readMembers s₀ seen (s.written fs ++ [.closeBrace]) = some s' ∧
      ∀ g, s'.value g = if g ∈ fs then s.value g else s₀.value g := by
  induction fs generalizing s₀ seen with
  | nil => exact absurd rfl hne
  | cons f fs ih =>
      obtain ⟨hf, hfs⟩ := List.nodup_cons.mp hd
      obtain ⟨hsf, hss⟩ := List.forall_mem_cons.mp hs
      obtain ⟨s₁, hr, hv⟩ := assign_value s₀ s f
      rw [← readField_token] at hr
      -- behind the last member the object is closed, behind any other there is a comma
      cases fs with
      | nil =>
          refine ⟨s₁, readMembers_last hsf hr, fun g => ?_⟩
          simp only [hv, List.mem_singleton]
      | cons e es =>
          have hw : s.written (f :: e :: es) ++ [.closeBrace] =
              memberTokens f.name (s.value f).token ++
                .comma :: (s.written (e :: es) ++ [.closeBrace]) := by
            simp only [written, List.map_cons, List.intercalate_cons_cons, List.append_assoc,
              List.cons_append, List.nil_append]
          have hss' : ∀ g ∈ e :: es, g ∉ f :: seen := fun g hg hm =>
            (List.mem_cons.mp hm).elim (fun h => hf (h ▸ hg)) (hss g hg)
          obtain ⟨s', hs', hv'⟩ := ih (List.cons_ne_nil e es) hfs hss' s₁
          refine ⟨s', ?_, fun g => ?_⟩
          · rw [hw, readMembers_comma hsf hr, hs']
          · rw [hv', hv]
            by_cases hg : g ∈ e :: es
            · rw [if_pos hg, if_pos (List.mem_cons_of_mem f hg)]
            · simp only [List.mem_cons (b := f), hg, or_false, if_false]

/-! ### Whole settings -/

/-- No field is missing from the list. -/
theorem Field.mem_all (f : Field) : f ∈ Field.all := by
  cases f <;> decide

/-- **An object with any of the settings**, in any order: those get their values, and what is
missing keeps its default. -/
theorem parse?_object (s : Settings) {fs : List Field} (hne : fs ≠ []) (hd : fs.Nodup) :
    ∃ s', parse? (Json.object (fs.map fun f => (f.name, (s.value f).render))).toList = some s' ∧
      ∀ g, s'.value g = if g ∈ fs then s.value g else value {} g := by
  have ht := Json.tokens?_object Field.name (fun f => (s.value f).render)
    (fun f => (s.value f).token) hne fun f _ => ⟨f.plain_name, (s.value f).stands_render⟩
  have ho : ofTokens? (.openBrace :: (s.written fs ++ [.closeBrace])) =
      readMembers {} [] (s.written fs ++ [.closeBrace]) := by
    match fs, hne with
    | [_], _ => rfl
    | _ :: _ :: _, _ => rfl
  obtain ⟨s', hs', hv⟩ := readMembers_written s hne hd (fun _ _ => List.not_mem_nil) {}
  refine ⟨s', ?_, hv⟩
  rw [parse?, ht, Option.bind_some]
  exact ho.trans hs'

/-- The text of settings is read as the settings. -/
theorem parse?_render (s : Settings) : parse? s.render.toList = some s := by
  obtain ⟨s', hs', hv⟩ := s.parse?_object (show Field.all ≠ [] by decide) (by decide)
  refine hs'.trans (congrArg some (eq_of_value_eq fun g => ?_))
  rw [hv, if_pos g.mem_all]

/-- Loading a text checks the settings that it stands for. -/
theorem load_of_parse {text : String} (h : parse? text.toList = some s) :
    load (some text.toUTF8) = s.check.map fun _ => s := by
  have hu : String.fromUTF8? text.toUTF8 = some text := dif_pos text.isValidUTF8
  simp only [load, hu, h]
  cases s.check <;> rfl

/-- Settings that were loaded can be run with. -/
theorem check_of_load {content : Option ByteArray} (h : load content = .ok s) :
    s.check = .ok () := by
  unfold load at h
  split at h
  · cases h
  · split at h
    · cases h
    · split at h
      · cases h
      · split at h
        · cases h
        · next hc =>
            cases h
            exact hc

/-- **Settings outlast saving**: those that can be run with, and all that are ever loaded, are
loaded again from the text that is saved for them. -/
theorem load_saved :
    (∀ s : Settings, s.check = .ok () → load (some s.render.toUTF8) = .ok s) ∧
    ∀ (content : Option ByteArray) (s : Settings), load content = .ok s →
      s.check = .ok () ∧ load (some s.render.toUTF8) = .ok s := by
  have hl (s : Settings) (h : s.check = .ok ()) : load (some s.render.toUTF8) = .ok s := by
    rw [load_of_parse (parse?_render s), h]
    rfl
  exact ⟨hl, fun _ s h => ⟨check_of_load h, hl s (check_of_load h)⟩⟩

theorem load_saved_partial :
    load (some "\x7b\"later\": [null], \"rx_queues\": 4\x7d".toUTF8) = .ok { rxQueues := 4 } ∧
    load (some (render { rxQueues := 4 }).toUTF8) = .ok { rxQueues := 4 } := by
  have hp : parse? "\x7b\"later\": [null], \"rx_queues\": 4\x7d".toList =
      some { rxQueues := 4 } := by
    decide +kernel
  have hl := (load_of_parse hp).trans (show _ = .ok { rxQueues := 4 } from rfl)
  exact ⟨hl, (load_saved.2 _ _ hl).2⟩

end FlowOffload.Settings
