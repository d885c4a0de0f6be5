import ChatDice.Json.Reader
import ChatDice.Json.Writer
import Mathlib.Data.List.Chain

/-!
Texts in quotation marks. The reader takes one apart code point by code point. An escaped high
surrogate joins an escaped low one after it, so that no text that was read has two such code points
side by side; and every text without them is read back as it was written.
-/

namespace ChatDice

/-- No high surrogate stands right before a low one. -/
def Text.Unpaired (t : Text) : Prop :=
  t.IsChain fun first second => ¬ (first.isHighSurrogate = true ∧ second.isLowSurrogate = true)

/-- Every code point stands for a character. -/
def Text.SurrogateFree (t : Text) : Prop := ∀ c ∈ t, c.isSurrogate = false

theorem CodePoint.isSurrogate_of_isHighSurrogate {c : CodePoint} (high : c.isHighSurrogate = true) :
    c.isSurrogate = true := by
  simp only [isHighSurrogate, isSurrogate, Bool.and_eq_true, decide_eq_true_eq] at high ⊢
  omega

theorem CodePoint.isSurrogate_of_isLowSurrogate {c : CodePoint} (low : c.isLowSurrogate = true) :
    c.isSurrogate = true := by
  simp only [isLowSurrogate, isSurrogate, Bool.and_eq_true, decide_eq_true_eq] at low ⊢
  omega

theorem CodePoint.isSurrogate_of_lt {c : CodePoint} (small : c.val < 0xD800) :
    c.isSurrogate = false := by
  simp only [isSurrogate, Bool.and_eq_false_iff, decide_eq_false_iff_not]
  omega

theorem CodePoint.val_ofNat {n : Nat} (small : n < 0x110000) : (ofNat n).val = n := by
  rw [ofNat, dif_pos small]

namespace Json

/-- The text starts with the escape of a low surrogate. -/
def StartsLow (t : Text) : Prop :=
  ∃ a b c d after n,
    t = CodePoint.ofChar '\\' :: CodePoint.ofChar 'u' :: a :: b :: c :: d :: after ∧
      hex4? a b c d = some n ∧ 0xDC00 ≤ n ∧ n ≤ 0xDFFF

/-- The first text starts with one code point as it is spelled inside of quotation marks, and goes
on with the second text. -/
inductive Spells : Text → CodePoint → Text → Prop
  | plain {c : CodePoint} {after : Text} (noQuote : c ≠ CodePoint.ofChar '"')
      (noEscape : c ≠ CodePoint.ofChar '\\') (noControl : 0x20 ≤ c.val) : Spells (c :: after) c after
  | short {e c : CodePoint} {after : Text} (named : shortEscape? e = some c) :
      Spells (CodePoint.ofChar '\\' :: e :: after) c after
  | unit {a b c d : CodePoint} {n : Nat} {after : Text} (named : hex4? a b c d = some n)
      (single : 0xD800 ≤ n → n ≤ 0xDBFF → ¬ StartsLow after) :
      Spells (CodePoint.ofChar '\\' :: CodePoint.ofChar 'u' :: a :: b :: c :: d :: after)
        (CodePoint.ofNat n) after
  | pair {a b c d e f g h : CodePoint} {high low : Nat} {after : Text}
      (first : hex4? a b c d = some high) (isHigh : 0xD800 ≤ high ∧ high ≤ 0xDBFF)
      (second : hex4? e f g h = some low) (isLow : 0xDC00 ≤ low ∧ low ≤ 0xDFFF) :
      Spells (CodePoint.ofChar '\\' :: CodePoint.ofChar 'u' :: a :: b :: c :: d ::
        CodePoint.ofChar '\\' :: CodePoint.ofChar 'u' :: e :: f :: g :: h :: after)
        (joinSurrogates high low) after

/-- The first text starts with the second one as it is spelled up to a closing quotation mark, and
goes on with the third. -/
inductive Literal : Text → Text → Text → Prop
  | done {rest : Text} : Literal (CodePoint.ofChar '"' :: rest) [] rest
  | step {t after s rest : Text} {c : CodePoint} (first : Spells t c after)
      (others : Literal after s rest) : Literal t (c :: s) rest

private theorem backslash_ne_quote : CodePoint.ofChar '\\' ≠ CodePoint.ofChar '"' := by decide

private theorem backslash_visible : ¬ (CodePoint.ofChar '\\').val < 0x20 := by decide

theorem stringRest_of_spells {t after : Text} {c : CodePoint} (spells : Spells t c after)
    (done : Text) : stringRest done t = stringRest (c :: done) after := by
  cases spells with
  | plain noQuote noEscape noControl =>
    rw [stringRest.eq_def]
    simp only [noQuote, noEscape, Nat.not_lt.mpr noControl, if_false]
  | @short e c after named =>
    have noUnit : e ≠ CodePoint.ofChar 'u' := by
      intro same
      subst same
      cases named
    rw [stringRest.eq_def]
    simp only [backslash_ne_quote, backslash_visible, noUnit, named, if_true, if_false]
  | @unit a b c d n after named single =>
    rw [stringRest.eq_def]
    simp only [backslash_ne_quote, backslash_visible, named, if_true, if_false]
    split
    · rename_i high
      simp only [Bool.and_eq_true, decide_eq_true_eq] at high
      split
      · rename_i s u e f g h rest
        split
        · rename_i m second
          split
          · rename_i low
            simp only [Bool.and_eq_true, decide_eq_true_eq] at low
            split at second
            · rename_i escaped
              simp only [Bool.and_eq_true, decide_eq_true_eq] at escaped
              obtain ⟨rfl, rfl⟩ := escaped
              exact absurd ⟨e, f, g, h, rest, m, rfl, second, low⟩ (single high.1 high.2)
            · cases second
          · rfl
        · rfl
      · rfl
    · rfl
  | pair first isHigh second isLow =>
    rw [stringRest.eq_def]
    simp [backslash_ne_quote, backslash_visible, first, isHigh, second, isLow]

private theorem unit_of_startsLow {s u a b c d : CodePoint} {after : Text}
    (low : StartsLow (s :: u :: a :: b :: c :: d :: after)) :
    ∃ n, (if s = CodePoint.ofChar '\\' && u = CodePoint.ofChar 'u' then hex4? a b c d else none) =
      some n ∧ (0xDC00 ≤ n && n ≤ 0xDFFF) = true := by
  obtain ⟨_, _, _, _, _, n, same, named, isLow⟩ := low
  cases same
  exact ⟨n, by simpa using named, by simpa using isLow⟩

private theorem literal_cons {done s t after rest : Text} {c : CodePoint} (first : Spells t c after)
    (others : ∃ added, s = (c :: done).reverse ++ added ∧ Literal after added rest) :
    ∃ added, s = done.reverse ++ added ∧ Literal t added rest := by
  obtain ⟨added, same, literal⟩ := others
  exact ⟨c :: added, by simp [same], .step first literal⟩

theorem literal_of_stringRest {done t s rest : Text} (read : stringRest done t = .ok (s, rest)) :
    ∃ added, s = done.reverse ++ added ∧ Literal t added rest := by
  fun_induction stringRest done t with
  | case1 | case3 | case4 | case5 | case11 | case13 => cases read
  | case2 done after =>
    cases read
    exact ⟨[], (List.append_nil _).symm, .done⟩
  | case6 done a b c d n named high e u f g h i after m second low notQuote notControl ih =>
    split at second
    · rename_i escaped
      simp only [Bool.and_eq_true, decide_eq_true_eq] at escaped high low
      obtain ⟨rfl, rfl⟩ := escaped
      exact literal_cons (.pair named high second low) (ih read)
    · cases second
  | case7 done a b c d n named high s u e f g h after m second notLow noQuote noControl ih =>
    refine literal_cons (.unit named fun _ _ low => ?_) (ih read)
    obtain ⟨m, found, isLow⟩ := unit_of_startsLow low
    rw [second] at found
    cases found
    exact notLow isLow
  | case8 done a b c d n named high s u e f g h after second noQuote noControl ih =>
    refine literal_cons (.unit named fun _ _ low => ?_) (ih read)
    obtain ⟨m, found, -⟩ := unit_of_startsLow low
    rw [second] at found
    cases found
  | case9 done a b c d n named high after short noQuote noControl ih =>
    refine literal_cons (.unit named fun _ _ low => ?_) (ih read)
    obtain ⟨_, _, _, _, _, _, same, -⟩ := low
    exact short _ _ _ _ _ _ _ same
  | case10 done a b c d after n named notHigh noQuote noControl ih =>
    refine literal_cons (.unit named fun lower upper _ => notHigh ?_) (ih read)
    simp [lower, upper]
  | case12 done e after notUnit c named noQuote noControl ih =>
    exact literal_cons (.short named) (ih read)
  | case14 done c after noQuote noControl noEscape ih =>
    exact literal_cons (.plain noQuote noEscape (Nat.le_of_not_lt noControl)) (ih read)

theorem stringRest_of_literal {t s rest : Text} (literal : Literal t s rest) (done : Text) :
    stringRest done t = .ok (done.reverse ++ s, rest) := by
  induction literal generalizing done with
  | done =>
    rw [stringRest.eq_def, List.append_nil]
    exact if_pos rfl
  | @step _ _ s _ c first others ih =>
    rw [stringRest_of_spells first, ih, List.reverse_cons, List.append_assoc]
    rfl

/-- The reader gives exactly the texts that are spelled up to a closing quotation mark. -/
theorem stringRest_eq_ok_iff {t s rest : Text} :
    stringRest [] t = .ok (s, rest) ↔ Literal t s rest := by
  constructor
  · intro read
    obtain ⟨added, same, literal⟩ := literal_of_stringRest read
    rw [same]
    exact literal
  · intro literal
    exact stringRest_of_literal literal []

theorem Spells.suffix {t after : Text} {c : CodePoint} (spells : Spells t c after) : after <:+ t := by
  cases spells with
  | plain => exact List.suffix_cons _ _
  | short => exact ⟨[_, _], rfl⟩
  | unit => exact ⟨[_, _, _, _, _, _], rfl⟩
  | pair => exact ⟨[_, _, _, _, _, _, _, _, _, _, _, _], rfl⟩

theorem Literal.suffix {t s rest : Text} (literal : Literal t s rest) : rest <:+ t := by
  induction literal with
  | done => exact List.suffix_cons _ _
  | step first others ih => exact ih.trans first.suffix

theorem hexValue?_lt {c : CodePoint} {n : Nat} (named : c.hexValue? = some n) : n < 16 := by
  unfold CodePoint.hexValue? CodePoint.isDigit at named
  split at named
  · rename_i digit
    simp only [Bool.and_eq_true, decide_eq_true_eq] at digit
    cases named
    omega
  · split at named
    · rename_i digit
      simp only [Bool.and_eq_true, decide_eq_true_eq] at digit
      cases named
      omega
    · split at named
      · rename_i digit
        simp only [Bool.and_eq_true, decide_eq_true_eq] at digit
        cases named
        omega
      · cases named

theorem hex4?_lt {a b c d : CodePoint} {n : Nat} (named : hex4? a b c d = some n) : n < 0x10000 := by
  simp only [hex4?, Option.bind_eq_bind, Option.bind_eq_some_iff, Option.pure_def,
    Option.some.injEq] at named
  obtain ⟨p, first, q, second, r, third, s, fourth, same⟩ := named
  have := hexValue?_lt first
  have := hexValue?_lt second
  have := hexValue?_lt third
  have := hexValue?_lt fourth
  omega

theorem shortEscape?_lt {e c : CodePoint} (named : shortEscape? e = some c) : c.val < 0x80 := by
  unfold shortEscape? at named
  split at named
  · rename_i same
    cases named
    simp only [Bool.or_eq_true, decide_eq_true_eq] at same
    obtain (rfl | rfl) | rfl := same <;> decide
  · repeat' split at named
    all_goals cases named
    all_goals decide

theorem joinSurrogates_le {high low : Nat} (isHigh : 0xD800 ≤ high ∧ high ≤ 0xDBFF)
    (isLow : 0xDC00 ≤ low ∧ low ≤ 0xDFFF) : 0x10000 ≤ (joinSurrogates high low).val := by
  rw [joinSurrogates, CodePoint.val_ofNat (by omega)]
  omega

theorem startsLow_of_spells {t after : Text} {c : CodePoint} (free : t.SurrogateFree)
    (spells : Spells t c after) (low : c.isLowSurrogate = true) : StartsLow t := by
  have surrogate := CodePoint.isSurrogate_of_isLowSurrogate low
  cases spells with
  | plain => simp [free c (List.mem_cons_self ..)] at surrogate
  | short named =>
    have character := CodePoint.isSurrogate_of_lt (Nat.lt_trans (shortEscape?_lt named) (by decide))
    rw [character] at surrogate
    cases surrogate
  | @unit a b c d n after named single =>
    have small := hex4?_lt named
    simp only [CodePoint.isLowSurrogate, CodePoint.val_ofNat (Nat.lt_trans small (by decide)),
      Bool.and_eq_true, decide_eq_true_eq] at low
    exact ⟨a, b, c, d, after, n, rfl, named, low⟩
  | @pair a b c d e f g h high low after first isHigh second isLow =>
    have large := joinSurrogates_le isHigh isLow
    simp only [CodePoint.isSurrogate, Bool.and_eq_true, decide_eq_true_eq] at surrogate
    omega

theorem not_startsLow_of_spells {t after : Text} {c : CodePoint} (free : t.SurrogateFree)
    (spells : Spells t c after) (high : c.isHighSurrogate = true) : ¬ StartsLow after := by
  have surrogate := CodePoint.isSurrogate_of_isHighSurrogate high
  cases spells with
  | plain => simp [free c (List.mem_cons_self ..)] at surrogate
  | short named =>
    have character := CodePoint.isSurrogate_of_lt (Nat.lt_trans (shortEscape?_lt named) (by decide))
    rw [character] at surrogate
    cases surrogate
  | unit named single =>
    have small := hex4?_lt named
    simp only [CodePoint.isHighSurrogate, CodePoint.val_ofNat (Nat.lt_trans small (by decide)),
      Bool.and_eq_true, decide_eq_true_eq] at high
    exact single high.1 high.2
  | pair first isHigh second isLow =>
    have large := joinSurrogates_le isHigh isLow
    simp only [CodePoint.isSurrogate, Bool.and_eq_true, decide_eq_true_eq] at surrogate
    omega

/-- A text that is read from characters alone has no high surrogate right before a low one. -/
theorem Literal.unpaired {t s rest : Text} (literal : Literal t s rest) (free : t.SurrogateFree) :
    s.Unpaired := by
  induction literal with
  | done => exact .nil
  | step first others ih =>
    have further := fun c member => free c (first.suffix.subset member)
    refine List.isChain_cons.mpr ⟨?_, ih further⟩
    rintro second atHead ⟨high, low⟩
    cases others with
    | done => cases atHead
    | step next _ =>
      cases atHead
      exact not_startsLow_of_spells free first high (startsLow_of_spells further next low)

theorem hexValue?_hexDigit {n : Nat} (small : n < 16) : (CodePoint.hexDigit n).hexValue? = some n := by
  decide +revert

theorem hex4?_hexDigit {n : Nat} (small : n < 0x10000) :
    hex4? (CodePoint.hexDigit (n / 16 / 16 / 16 % 16)) (CodePoint.hexDigit (n / 16 / 16 % 16))
      (CodePoint.hexDigit (n / 16 % 16)) (CodePoint.hexDigit (n % 16)) = some n := by
  have below (m : Nat) : m % 16 < 16 := Nat.mod_lt m (by decide)
  simp only [hex4?, hexValue?_hexDigit (below _)]
  refine congrArg some ?_
  omega

theorem unitEscape_eq (n : Nat) (rest : Text) : unitEscape n ++ rest =
    CodePoint.ofChar '\\' :: CodePoint.ofChar 'u' :: CodePoint.hexDigit (n / 16 / 16 / 16 % 16) ::
      CodePoint.hexDigit (n / 16 / 16 % 16) :: CodePoint.hexDigit (n / 16 % 16) ::
      CodePoint.hexDigit (n % 16) :: rest := rfl

/-- The ways in which a code point is written inside of quotation marks. -/
inductive Escaped (c : CodePoint) : Text → Prop
  | plain (noQuote : c ≠ CodePoint.ofChar '"') (noEscape : c ≠ CodePoint.ofChar '\\')
      (visible : 0x20 ≤ c.val ∧ c.val ≤ 0x7E) : Escaped c [c]
  | short {e : CodePoint} (named : shortEscape? e = some c) (visible : 0x20 ≤ e.val ∧ e.val ≤ 0x7E) :
      Escaped c [CodePoint.ofChar '\\', e]
  | unit (small : c.val < 0x10000) : Escaped c (unitEscape c.val)
  | pair {high low : Nat} (isHigh : 0xD800 ≤ high ∧ high ≤ 0xDBFF)
      (isLow : 0xDC00 ≤ low ∧ low ≤ 0xDFFF) (joined : joinSurrogates high low = c) :
      Escaped c (unitEscape high ++ unitEscape low)

theorem escaped_escape (c : CodePoint) : Escaped c (escape c) := by
  unfold escape
  iterate 5
    split
    · subst c
      exact .short (by decide) (by decide)
  split
  · rename_i same
    obtain rfl : c = 0x08 := Fin.ext same
    exact .short (by decide) (by decide)
  split
  · rename_i same
    obtain rfl : c = 0x0C := Fin.ext same
    exact .short (by decide) (by decide)
  split
  · rename_i noQuote noEscape _ _ _ _ _ visible
    simp only [Bool.and_eq_true, decide_eq_true_eq] at visible
    exact .plain noQuote noEscape visible
  split
  · rename_i small
    exact .unit small
  · rename_i large
    have bound := c.isLt
    refine .pair (by omega) (by omega) (Fin.ext ?_)
    rw [joinSurrogates, CodePoint.val_ofNat (by omega)]
    omega

/-- Reading what was written for a code point gives it again, unless it joins the next one. -/
theorem spells_escape {c : CodePoint} {rest : Text}
    (single : c.isHighSurrogate = true → ¬ StartsLow rest) : Spells (escape c ++ rest) c rest := by
  have written := escaped_escape c
  generalize escape c = t at written
  cases written with
  | plain noQuote noEscape visible => exact .plain noQuote noEscape visible.1
  | short named => exact .short named
  | unit small =>
    have spells := Spells.unit (hex4?_hexDigit small) fun lower upper =>
      single (by simp [CodePoint.isHighSurrogate, lower, upper])
    rwa [CodePoint.ofNat, dif_pos c.isLt] at spells
  | pair isHigh isLow joined =>
    rw [List.append_assoc, unitEscape_eq, unitEscape_eq, ← joined]
    exact .pair (hex4?_hexDigit (by omega)) isHigh (hex4?_hexDigit (by omega)) isLow

theorem startsLow_unitEscape {n : Nat} {rest : Text} (small : n < 0x10000)
    (low : StartsLow (unitEscape n ++ rest)) : 0xDC00 ≤ n ∧ n ≤ 0xDFFF := by
  obtain ⟨a, b, c, d, after, m, same, named, isLow⟩ := low
  rw [unitEscape_eq] at same
  cases same
  rw [hex4?_hexDigit small] at named
  cases named
  exact isLow

theorem isLowSurrogate_of_startsLow {c : CodePoint} {rest : Text}
    (low : StartsLow (escape c ++ rest)) : c.isLowSurrogate = true := by
  have written := escaped_escape c
  generalize escape c = t at written low
  cases written with
  | plain _ noEscape _ =>
    obtain ⟨_, _, _, _, _, _, same, -⟩ := low
    cases same
    exact absurd rfl noEscape
  | short named =>
    obtain ⟨_, _, _, _, _, _, same, -⟩ := low
    cases same
    cases named
  | unit small =>
    have isLow := startsLow_unitEscape small low
    simpa [CodePoint.isLowSurrogate] using isLow
  | pair isHigh isLow joined =>
    rw [List.append_assoc] at low
    have contradiction := startsLow_unitEscape (by omega) low
    omega

/-- A text without a high surrogate right before a low one is read as it was written. -/
theorem literal_of_unpaired {t : Text} (unpaired : t.Unpaired) (rest : Text) :
    Literal (t.flatMap escape ++ CodePoint.ofChar '"' :: rest) t rest := by
  induction t with
  | nil => exact .done
  | cons c t ih =>
    obtain ⟨apart, further⟩ := List.isChain_cons.mp unpaired
    rw [List.flatMap_cons, List.append_assoc]
    refine .step (spells_escape fun high low => ?_) (ih further)
    cases t with
    | nil =>
      obtain ⟨_, _, _, _, _, _, same, -⟩ := low
      cases same
    | cons next t =>
      rw [List.flatMap_cons, List.append_assoc] at low
      exact apart next rfl ⟨high, isLowSurrogate_of_startsLow low⟩

end Json
end ChatDice
