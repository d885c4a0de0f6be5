import ChatDice.Proofs.RoundTrip
import ChatDice.Text.Utf8

/-!
Values as bytes. What is written has printable ASCII only, which is its own UTF-8 form; and what is
decoded from bytes has no surrogates of its own.
-/

namespace ChatDice

/-- Printable ASCII only. -/
def Text.Visible (t : Text) : Prop := ∀ c ∈ t, 0x20 ≤ c.val ∧ c.val ≤ 0x7E

namespace Text

theorem visible_append {s t : Text} : (s ++ t).Visible ↔ s.Visible ∧ t.Visible :=
  List.forall_mem_append

theorem visible_cons {c : CodePoint} {t : Text} :
    Visible (c :: t) ↔ (0x20 ≤ c.val ∧ c.val ≤ 0x7E) ∧ t.Visible := List.forall_mem_cons

theorem visible_nil : Visible [] := by simp [Visible]

theorem visible_of_all {t : Text}
    (all : t.all (fun c => decide (0x20 ≤ c.val ∧ c.val ≤ 0x7E)) = true) : t.Visible := by
  intro c member
  exact of_decide_eq_true (List.all_eq_true.mp all c member)

theorem visible_of_digits {t : Text} (all : ∀ c ∈ t, c.isDigit = true) : t.Visible := by
  intro c member
  have digit := all c member
  simp only [CodePoint.isDigit, Bool.and_eq_true, decide_eq_true_eq] at digit
  omega

end Text

namespace Json

theorem visible_hexDigit {n : Nat} (small : n < 16) :
    0x20 ≤ (CodePoint.hexDigit n).val ∧ (CodePoint.hexDigit n).val ≤ 0x7E := by
  decide +revert

theorem visible_unitEscape (n : Nat) : (unitEscape n).Visible := by
  have below (m : Nat) := visible_hexDigit (Nat.mod_lt m (by decide : 0 < 16))
  rw [← List.append_nil (unitEscape n), unitEscape_eq]
  simp only [Text.visible_cons]
  exact ⟨by decide, by decide, below _, below _, below _, below _, Text.visible_nil⟩

theorem visible_escape (c : CodePoint) : (escape c).Visible := by
  have written := escaped_escape c
  generalize escape c = t at written ⊢
  cases written with
  | plain _ _ visible => exact Text.visible_cons.mpr ⟨visible, Text.visible_nil⟩
  | short _ visible =>
    exact Text.visible_cons.mpr ⟨by decide, Text.visible_cons.mpr ⟨visible, Text.visible_nil⟩⟩
  | unit => exact visible_unitEscape _
  | pair => exact Text.visible_append.mpr ⟨visible_unitEscape _, visible_unitEscape _⟩

theorem visible_quoted (t : Text) : (quoted t).Visible := by
  have mark : (Text.ofString "\"").Visible := Text.visible_of_all (by decide)
  refine Text.visible_append.mpr ⟨Text.visible_append.mpr ⟨mark, fun c member => ?_⟩, mark⟩
  obtain ⟨original, _, inside⟩ := List.mem_flatMap.mp member
  exact visible_escape original c inside

theorem visible_ofInt (n : Int) : (Numeral.ofInt n).Visible := by
  have digits := Text.visible_of_digits (Numeral.isDigit_ofNat n.natAbs)
  unfold Numeral.ofInt
  split
  · exact Text.visible_cons.mpr ⟨by decide, digits⟩
  · exact digits

theorem visible_fraction {digits : Option Text} {t : Text} (spelled : IsFraction digits t) :
    t.Visible := by
  cases spelled with
  | none => exact Text.visible_nil
  | some all => exact Text.visible_cons.mpr ⟨by decide, Text.visible_of_digits all⟩

theorem visible_power {size : Option Int} {t : Text} (spelled : IsPower size t) : t.Visible := by
  cases spelled with
  | none => exact Text.visible_nil
  | negative all | positive all =>
    refine Text.visible_cons.mpr ⟨by decide, Text.visible_cons.mpr ⟨by decide, ?_⟩⟩
    exact Text.visible_of_digits all

theorem visible_layout {special : Bool → Text} {undefinedText : Text}
    (infinite : ∀ negative, (special negative).Visible) (undefined : undefinedText.Visible)
    (x : Binary64) : (Binary64.layout special undefinedText x).Visible := by
  cases x with
  | nan => exact undefined
  | infinite negative => exact infinite negative
  | finite negative significand exponent =>
    obtain ⟨whole, fraction, power, digits, size, same, isWhole, isFraction, isPower, -⟩ :=
      Binary64.isNumeral_magnitude significand exponent
    have magnitude : (whole ++ (fraction ++ power)).Visible :=
      Text.visible_append.mpr ⟨Text.visible_of_digits isWhole.digits,
        Text.visible_append.mpr ⟨visible_fraction isFraction, visible_power isPower⟩⟩
    rw [Binary64.layout]
    simp only [same]
    split
    · exact Text.visible_cons.mpr ⟨by decide, magnitude⟩
    · exact magnitude

theorem visible_jsonText (x : Binary64) : x.jsonText.Visible := by
  refine visible_layout (fun negative => ?_) (Text.visible_of_all (by decide)) x
  cases negative <;> exact Text.visible_of_all (by decide)

mutual

/-- All that is written is printable ASCII. -/
theorem visible_render : (value : Json) → value.render.Visible
  | .null => Text.visible_of_all (by decide)
  | .bool true => Text.visible_of_all (by decide)
  | .bool false => Text.visible_of_all (by decide)
  | .int n => visible_ofInt n
  | .float x => visible_jsonText x
  | .str t => visible_quoted t
  | .arr list => by
    have opening : (Text.ofString "[").Visible := Text.visible_of_all (by decide)
    have closing : (Text.ofString "]").Visible := Text.visible_of_all (by decide)
    rw [render]
    exact Text.visible_append.mpr
      ⟨Text.visible_append.mpr ⟨opening, visible_renderItems list⟩, closing⟩
  | .obj list => by
    have opening : (Text.ofString "\x7b").Visible := Text.visible_of_all (by decide)
    have closing : (Text.ofString "\x7d").Visible := Text.visible_of_all (by decide)
    rw [render]
    exact Text.visible_append.mpr
      ⟨Text.visible_append.mpr ⟨opening, visible_renderMembers list⟩, closing⟩

theorem visible_renderItems : (list : List Json) → (renderItems list).Visible
  | [] => Text.visible_nil
  | [last] => visible_render last
  | item :: next :: rest => by
    have comma : (Text.ofString ", ").Visible := Text.visible_of_all (by decide)
    rw [renderItems]
    · exact Text.visible_append.mpr
        ⟨Text.visible_append.mpr ⟨visible_render item, comma⟩, visible_renderItems (next :: rest)⟩
    · simp

theorem visible_renderMembers : (list : List (Text × Json)) → (renderMembers list).Visible
  | [] => Text.visible_nil
  | [(name, value)] => visible_member name value
  | (name, value) :: next :: rest => by
    have comma : (Text.ofString ", ").Visible := Text.visible_of_all (by decide)
    rw [renderMembers]
    · exact Text.visible_append.mpr ⟨Text.visible_append.mpr ⟨visible_member name value, comma⟩,
        visible_renderMembers (next :: rest)⟩
    · simp

theorem visible_member (name : Text) (value : Json) :
    (quoted name ++ ": " ++ value.render).Visible := by
  have colon : (Text.ofString ": ").Visible := Text.visible_of_all (by decide)
  exact Text.visible_append.mpr
    ⟨Text.visible_append.mpr ⟨visible_quoted name, colon⟩, visible_render value⟩

end

end Json

namespace Utf8

theorem encode_of_visible {t : Text} (visible : t.Visible) :
    encode t = t.map fun c => c.val.toUInt8 := by
  induction t with
  | nil => rfl
  | cons c t ih =>
    obtain ⟨first, others⟩ := Text.visible_cons.mp visible
    have small : c.val < 0x80 := by omega
    rw [encode, List.flatMap_cons, encodeCodePoint, if_pos small, List.map_cons]
    exact congrArg _ (ih others)

/-- Every byte of a visible text is that of one of its characters. -/
theorem mem_encode_of_visible {t : Text} (visible : t.Visible) :
    ∀ b ∈ encode t, 0x20 ≤ b.toNat ∧ b.toNat ≤ 0x7E := by
  rw [encode_of_visible visible]
  intro b member
  obtain ⟨c, inside, rfl⟩ := List.mem_map.mp member
  have bounds := visible c inside
  simp
  omega

theorem decode_encode_of_visible {t : Text} (visible : t.Visible) : decode (encode t) = some t := by
  rw [encode_of_visible visible]
  induction t with
  | nil => rfl
  | cons c t ih =>
    obtain ⟨first, others⟩ := Text.visible_cons.mp visible
    have size : c.val.toUInt8.toNat = c.val := by
      simp
      omega
    have small : c.val.toUInt8 < 0x80 := by
      rw [UInt8.lt_iff_toNat_lt, size]
      exact Nat.lt_of_le_of_lt first.2 (by decide)
    have back : CodePoint.ofNat c.val = c := by
      rw [CodePoint.ofNat, dif_pos c.isLt]
    rw [List.map_cons, decode.eq_def]
    simp only [if_pos small, ih others, size, back]
    rfl

theorem isSurrogate_ofNat {n : Nat} (apart : n < 0xD800 ∨ 0xE000 ≤ n) :
    (CodePoint.ofNat n).isSurrogate = false := by
  simp only [CodePoint.isSurrogate, Bool.and_eq_false_iff, decide_eq_false_iff_not]
  unfold CodePoint.ofNat
  split <;> dsimp only <;> omega

theorem tail_lt (b : UInt8) : tail b < 0x40 := Nat.mod_lt _ (by decide)

/-- Strict reading gives no surrogate, neither alone nor as half of a pair. -/
theorem surrogateFree_of_decode {bytes : List UInt8} {t : Text} (decoded : decode bytes = some t) :
    t.SurrogateFree := by
  have cons {n : Nat} {rest : Option Text} {t : Text} (apart : n < 0xD800 ∨ 0xE000 ≤ n)
      (ih : ∀ {t}, rest = some t → Text.SurrogateFree t)
      (added : rest.map (CodePoint.ofNat n :: ·) = some t) : t.SurrogateFree := by
    obtain ⟨others, found, rfl⟩ := Option.map_eq_some_iff.mp added
    exact List.forall_mem_cons.mpr ⟨isSurrogate_ofNat apart, ih found⟩
  fun_induction decode bytes generalizing t with
  | case1 =>
    cases decoded
    simp [Text.SurrogateFree]
  | case2 a rest small ih =>
    have byte := a.toNat_lt
    exact cons (by omega) ih decoded
  | case3 a b rest first continues large ih =>
    have second := tail_lt b
    exact cons (by omega) ih decoded
  | case5 a b early c rest first n inRange large =>
    rename_i ih
    simp only [Bool.and_eq_true, Bool.or_eq_true, decide_eq_true_eq] at inRange
    exact cons inRange.2 ih decoded
  | case7 a b early c notThird d rest n inRange large =>
    rename_i ih
    simp only [Bool.and_eq_true, decide_eq_true_eq] at inRange
    exact cons (by omega) ih decoded
  | _ => cases decoded

end Utf8
end ChatDice
