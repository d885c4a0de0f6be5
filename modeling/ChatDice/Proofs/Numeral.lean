import ChatDice.Text.Numeral

/-! Which numbers have a numeral of permitted length, in writing and in reading. -/

namespace ChatDice.Numeral

theorem length_ofNat_le_iff {n limit : Nat} (positive : 0 < limit) :
    (ofNat n).length ≤ limit ↔ n < 10 ^ limit := by
  rw [ofNat, List.length_map]
  exact Nat.length_toDigits_le_iff (by decide) positive

theorem write_of_lt {i : Int} (small : i.natAbs < 10 ^ digitLimit) : write i = .ok (ofInt i) := by
  have short := (length_ofNat_le_iff (by decide)).mpr small
  rw [write, if_neg (Nat.not_lt.mpr short)]

theorem write_of_le {i : Int} (large : 10 ^ digitLimit ≤ i.natAbs) : write i = .error .written := by
  have long : ¬ (ofNat i.natAbs).length ≤ digitLimit := by
    rw [length_ofNat_le_iff (by decide)]
    exact Nat.not_lt.mpr large
  rw [write, if_pos (Nat.lt_of_not_le long)]

theorem isOk_write_iff {i : Int} : (write i).isOk = true ↔ i.natAbs < 10 ^ digitLimit := by
  rcases Nat.lt_or_ge i.natAbs (10 ^ digitLimit) with small | large
  · exact iff_of_true (by rw [write_of_lt small]; rfl) small
  · exact iff_of_false (by simp [write_of_le large, Except.isOk, Except.toBool]) (Nat.not_lt.mpr large)

private theorem digitValue_lt (c : CodePoint) : c.digitValue < 10 := by
  unfold CodePoint.digitValue CodePoint.isDigit
  split
  · rename_i digit
    simp only [Bool.and_eq_true, decide_eq_true_eq] at digit
    omega
  · decide

private theorem foldl_lt (digits : Text) (n bound : Nat) (below : n < bound) :
    digits.foldl (fun n digit => 10 * n + digit.digitValue) n < bound * 10 ^ digits.length := by
  induction digits generalizing n bound with
  | nil => simpa using below
  | cons digit rest ih =>
    have next : 10 * n + digit.digitValue < 10 * bound := by
      have digitBelow := digitValue_lt digit
      omega
    have bounded := ih _ _ next
    rw [List.foldl_cons, List.length_cons, Nat.pow_succ]
    calc
      _ < 10 * bound * 10 ^ rest.length := bounded
      _ = bound * (10 ^ rest.length * 10) := by
        rw [Nat.mul_comm 10 bound, Nat.mul_assoc, Nat.mul_comm 10]

/-- A run of so many digits denotes a number of at most so many digits. -/
theorem value_lt (digits : Text) : value digits < 10 ^ digits.length := by
  simpa [value] using foldl_lt digits 0 1 (by decide)

theorem lt_of_read {digits : Text} {n : Nat} (found : read digits = .ok n) : n < 10 ^ digitLimit := by
  unfold read at found
  split at found
  · cases found
  · rename_i short
    cases found
    exact Nat.lt_of_lt_of_le (value_lt digits)
      (Nat.pow_le_pow_right (by decide) (Nat.le_of_not_lt short))

theorem ofNat_ne_nil (n : Nat) : ofNat n ≠ [] := by
  rw [ofNat, ne_eq, List.map_eq_nil_iff]
  exact Nat.toDigits_ne_nil

theorem isDigit_ofChar (c : Char) : (CodePoint.ofChar c).isDigit = c.isDigit := by
  rw [CodePoint.isDigit, Char.isDigit]
  rfl

theorem isDigit_ofNat (n : Nat) : ∀ c ∈ ofNat n, c.isDigit = true := by
  intro c member
  obtain ⟨digit, found, rfl⟩ := List.mem_map.mp member
  rw [isDigit_ofChar]
  exact Nat.isDigit_of_mem_toDigits (by decide) (by decide) found

private theorem foldl_map_ofChar {digits : List Char} (all : ∀ c ∈ digits, c.isDigit = true) (n : Nat) :
    (digits.map CodePoint.ofChar).foldl (fun n digit => 10 * n + digit.digitValue) n =
      Nat.ofDigitChars 10 digits n := by
  induction digits generalizing n with
  | nil => rfl
  | cons c rest ih =>
    obtain ⟨digit, others⟩ := List.forall_mem_cons.mp all
    rw [List.map_cons, List.foldl_cons, Nat.ofDigitChars_cons, ih others, CodePoint.digitValue,
      isDigit_ofChar, if_pos digit]
    rfl

theorem value_ofNat (n : Nat) : value (ofNat n) = n := by
  have digits : ∀ c ∈ Nat.toDigits 10 n, c.isDigit = true := fun c =>
    Nat.isDigit_of_mem_toDigits (by decide) (by decide)
  rw [value, ofNat, foldl_map_ofChar digits, Nat.ofDigitChars_ten_toDigits]

/-- The last digit of a number stands behind the numeral of its tens. -/
theorem ofNat_of_ten_le {n : Nat} (large : 10 ≤ n) :
    ofNat n = ofNat (n / 10) ++ [CodePoint.ofChar (n % 10).digitChar] := by
  rw [ofNat, Nat.toDigits_of_base_le (by decide) large, List.map_append]
  rfl

/-- Only the numeral of zero starts with a zero. -/
theorem head?_ofNat {n : Nat} (positive : 0 < n) : (ofNat n).head? ≠ some (CodePoint.ofChar '0') := by
  induction n using Nat.strongRecOn with
  | ind n ih =>
    by_cases small : n < 10
    · have digits : ∀ d < 10, 0 < d →
          ([d.digitChar].map CodePoint.ofChar).head? ≠ some (CodePoint.ofChar '0') := by decide
      rw [ofNat, Nat.toDigits_of_lt_base small]
      exact digits n small positive
    · have longer := ofNat_of_ten_le (Nat.le_of_not_lt small)
      have earlier := ih (n / 10) (by omega) (by omega)
      obtain ⟨first, others, same⟩ := List.exists_cons_of_ne_nil (ofNat_ne_nil (n / 10))
      rw [same] at earlier longer
      rw [longer]
      exact earlier

theorem ofNat_injective : Function.Injective ofNat := by
  intro n m same
  rw [← value_ofNat n, same, value_ofNat]

theorem ofNat_ne_minus_cons (n : Nat) (t : Text) : ofNat n ≠ CodePoint.ofChar '-' :: t := by
  intro same
  have digit := isDigit_ofNat n (CodePoint.ofChar '-') (same ▸ List.mem_cons_self ..)
  cases digit

theorem ofInt_injective : Function.Injective ofInt := by
  intro n m same
  unfold ofInt at same
  by_cases negative : n < 0
  · by_cases otherNegative : m < 0
    · rw [if_pos negative, if_pos otherNegative] at same
      have magnitude := ofNat_injective (List.cons.inj same).2
      omega
    · rw [if_pos negative, if_neg otherNegative] at same
      exact absurd same.symm (ofNat_ne_minus_cons _ _)
  · by_cases otherNegative : m < 0
    · rw [if_neg negative, if_pos otherNegative] at same
      exact absurd same (ofNat_ne_minus_cons _ _)
    · rw [if_neg negative, if_neg otherNegative] at same
      have magnitude := ofNat_injective same
      omega

theorem ofInt_ne_nil (n : Int) : ofInt n ≠ [] := by
  unfold ofInt
  split
  · exact List.cons_ne_nil _ _
  · exact ofNat_ne_nil _

theorem mem_ofInt (n : Int) : ∀ c ∈ ofInt n, c.isDigit = true ∨ c = '-' := by
  intro c member
  unfold ofInt at member
  split at member
  · rcases List.mem_cons.mp member with sign | digit
    · exact .inr sign
    · exact .inl (isDigit_ofNat _ c digit)
  · exact .inl (isDigit_ofNat _ c member)

theorem isDigit_padded (width n : Nat) : ∀ c ∈ padded width n, c.isDigit = true := by
  intro c member
  rcases List.mem_append.mp member with zero | digit
  · rw [List.eq_of_mem_replicate zero]
    decide
  · exact isDigit_ofNat n c digit

theorem padded_ne_nil (width n : Nat) : padded width n ≠ [] := by
  simp [padded, ofNat_ne_nil]

theorem length_padded (width n : Nat) : (padded width n).length = max width (ofNat n).length := by
  simp [padded]
  omega

private theorem foldl_eq (digits : Text) (n : Nat) :
    digits.foldl (fun n digit => 10 * n + digit.digitValue) n =
      n * 10 ^ digits.length + value digits := by
  induction digits generalizing n with
  | nil => simp [value]
  | cons digit rest ih =>
    have first : value (digit :: rest) = digit.digitValue * 10 ^ rest.length + value rest := by
      rw [value, List.foldl_cons, ih, Nat.mul_zero, Nat.zero_add]
    rw [List.foldl_cons, ih, first, List.length_cons, Nat.pow_succ, Nat.add_mul, Nat.mul_comm 10 n,
      Nat.mul_assoc, Nat.mul_comm 10, Nat.add_assoc]

theorem value_append (front back : Text) :
    value (front ++ back) = value front * 10 ^ back.length + value back := by
  rw [value, List.foldl_append, foldl_eq]
  rfl

/-- Zeros on the left do not change what a run of digits denotes. -/
theorem value_padded (width n : Nat) : value (padded width n) = n := by
  have zeros (count : Nat) : value (List.replicate count (CodePoint.ofChar '0')) = 0 := by
    induction count with
    | zero => rfl
    | succ count ih =>
      rw [List.replicate_succ', value_append, ih]
      rfl
  rw [padded, value_append, zeros, value_ofNat, Nat.zero_mul, Nat.zero_add]

end ChatDice.Numeral
