import SqlUpdate.Proofs.Json.Shape
/-!
# Whole numbers as numerals

* `Decimal.digits_eq_cons` — the digits of a positive number start with no zero.
* `Numeral.read?_text_ofInt` — the numeral of a whole number is read from its text.
* `Json.numberOf?_ofInt` — and has this number as its value, if it fits 64 bits.
-/

namespace SqlUpdate

/-- The digits of a positive number start with no zero. -/
theorem Decimal.digits_eq_cons {n : Nat} (hn : 0 < n) :
    ∃ c ds, digits n = c :: ds ∧ c.isDigit = true ∧ c ≠ '0' ∧ ∀ d ∈ ds, d.isDigit = true := by
  have hfirst : ∃ c ds, digits n = c :: ds ∧ c ≠ '0' := by
    induction n using Nat.strongRecOn with
    | _ n ih =>
      by_cases hsmall : n < 10
      · have hchar : ∀ m < 10, 0 < m → Nat.digitChar m ≠ '0' := by decide
        exact ⟨_, _, Nat.toDigits_of_lt_base hsmall, hchar n hsmall hn⟩
      · obtain ⟨c, ds, hds, hc⟩ := ih (n / 10) (by omega) (by omega)
        refine ⟨c, ds ++ [Nat.digitChar (n % 10)], ?_, hc⟩
        rw [digits, Nat.toDigits_of_base_le (by decide) (by omega), ← digits, hds, List.cons_append]
  obtain ⟨c, ds, hds, hc⟩ := hfirst
  have hdigit {d : Char} (hd : d ∈ c :: ds) : d.isDigit = true :=
    isDigit_of_mem_digits (n := n) (hds ▸ hd)
  exact ⟨c, ds, hds, hdigit List.mem_cons_self, hc, fun d hd => hdigit (List.mem_cons_of_mem c hd)⟩

namespace Numeral

theorem foldlM_whole {ds : List Char} (h : ∀ d ∈ ds, d.isDigit = true) (n : Numeral) :
    ds.foldlM Scan.step? ⟨n, .whole⟩ = some ⟨{ n with whole := n.whole ++ ds }, .whole⟩ := by
  induction ds generalizing n with
  | nil => rw [List.append_nil]; rfl
  | cons d ds ih =>
    obtain ⟨hd, hds⟩ := List.forall_mem_cons.1 h
    have hstep : Scan.step? ⟨n, .whole⟩ d = some ⟨n.pushWhole d, .whole⟩ := if_pos hd
    rw [List.foldlM_cons, hstep]
    show ds.foldlM Scan.step? _ = _
    rw [ih hds, pushWhole, List.append_assoc]
    rfl

/-- Digits that start with no zero are read, with or without a minus sign in front. -/
theorem read?_digits {c : Char} {ds : List Char} (hc : c.isDigit = true) (hzero : c ≠ '0')
    (hds : ∀ d ∈ ds, d.isDigit = true) :
    read? (c :: ds) = some ⟨false, c :: ds, [], none⟩ ∧
    read? ('-' :: c :: ds) = some ⟨true, c :: ds, [], none⟩ := by
  have hminus : c ≠ '-' := by
    rintro rfl
    cases hc
  have hstart : Scan.start? c = some ⟨⟨false, [c], [], none⟩, .whole⟩ := by
    rw [Scan.start?, if_neg hminus, if_neg hzero, if_pos hc]
  have hsign : Scan.step? ⟨⟨true, [], [], none⟩, .sign⟩ c
      = some ⟨⟨true, [c], [], none⟩, .whole⟩ := by
    simp [Scan.step?, hzero, hc, pushWhole]
  constructor
  · rw [read?, hstart]
    show (ds.foldlM Scan.step? _).bind Scan.done? = _
    rw [foldlM_whole hds]
    rfl
  · show ((Scan.step? _ c).bind fun s => ds.foldlM Scan.step? s).bind Scan.done? = _
    rw [hsign, Option.bind_some, foldlM_whole hds]
    rfl

/-- The numeral of a whole number is read from its text. -/
theorem read?_text_ofInt (i : Int) : read? (ofInt i).text = some (ofInt i) := by
  match i with
  | .ofNat 0 => rfl
  | .ofNat (n + 1) =>
    obtain ⟨c, ds, hdigits, hc, hzero, hds⟩ := Decimal.digits_eq_cons (Nat.succ_pos n)
    have hread := (read?_digits hc hzero hds).1
    rw [← hdigits] at hread
    simpa [ofInt, text, fractionText, exponentText] using hread
  | .negSucc n =>
    obtain ⟨c, ds, hdigits, hc, hzero, hds⟩ := Decimal.digits_eq_cons (Nat.succ_pos n)
    have hread := (read?_digits hc hzero hds).2
    rw [← hdigits] at hread
    simpa [ofInt, text, fractionText, exponentText] using hread

end Numeral

namespace Json

theorem leadingDigits_eq {m : Nat} {cs : List Char}
    (h : Nat.ofDigitChars 10 cs m < Nat.pow 2 64) :
    leadingDigits m cs = (Nat.ofDigitChars 10 cs m, []) := by
  induction cs generalizing m with
  | nil => rfl
  | cons c cs ih =>
    rw [Nat.ofDigitChars_cons] at h ⊢
    have hpush : pushDigit? m c = some (10 * m + (c.toNat - '0'.toNat)) :=
      if_pos (Nat.lt_of_le_of_lt (le_ofDigitChars _ cs) h)
    rw [leadingDigits_cons, hpush]
    exact ih h

/-- A whole number that fits 64 bits is the value of its numeral. -/
theorem numberOf?_ofInt {i : Int} (hmin : -(Nat.pow 2 63 : Nat) ≤ i)
    (hmax : i < (Nat.pow 2 64 : Nat)) : numberOf? (Numeral.ofInt i) = some (.int i) := by
  have hdigits {n : Nat} (hn : n < Nat.pow 2 64) :
      leadingDigits 0 (Decimal.digits n) = (n, []) := by
    have hvalue : Nat.ofDigitChars 10 (Decimal.digits n) 0 = n := Decimal.value_digits n
    rw [leadingDigits_eq (hvalue.symm ▸ hn), hvalue]
  cases i with
  | ofNat n =>
    have hn : n < Nat.pow 2 64 := Int.ofNat_lt.1 hmax
    rw [Numeral.ofInt, numberOf?, hdigits hn]
    rfl
  | negSucc n =>
    have hn : n + 1 ≤ Nat.pow 2 63 := by
      have hpow : Nat.pow 2 63 = 9223372036854775808 := rfl
      omega
    rw [Numeral.ofInt, numberOf?, hdigits (Nat.lt_of_le_of_lt hn (by decide))]
    simp [hn, Int.negSucc_eq]

end Json

end SqlUpdate
