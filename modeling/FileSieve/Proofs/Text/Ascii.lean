namespace FileSieve.Ascii

theorem of_codes {property : Char → Prop} (c : Char) (ascii : c.toNat < 0x80)
    (codes : ∀ code < 0x80, property (Char.ofNat code)) : property c := by
  have checked := codes c.toNat ascii
  rwa [Char.ofNat_toNat] at checked

theorem toLower_of_not_ascii (c : Char) (high : 0x80 ≤ c.toNat) : c.toLower = c := by
  have outside : ¬ (c.val ≥ 'A'.val ∧ c.val ≤ 'Z'.val) := by
    rintro ⟨_, upper⟩
    have bound : c.val.toNat ≤ 0x5A := UInt32.le_iff_toNat_le.mp upper
    have value : c.toNat = c.val.toNat := rfl
    omega
  exact dif_neg outside

theorem eq_of_toLower (c mark : Char) (lowered : c.toLower = mark) (plain : mark.isLower = false) :
    c = mark := by
  by_cases ascii : c.toNat < 0x80
  · have checked : c.toLower.isLower = false → c.toLower = c := by
      apply of_codes c ascii
      decide
    rw [← lowered] at plain
    rw [← lowered, checked plain]
  · rwa [toLower_of_not_ascii c (by omega)] at lowered

theorem toUpper_of_not_ascii (c : Char) (high : 0x80 ≤ c.toNat) : c.toUpper = c := by
  have outside : ¬ (c.val ≥ 'a'.val ∧ c.val ≤ 'z'.val) := by
    rintro ⟨_, upper⟩
    have bound : c.val.toNat ≤ 0x7A := UInt32.le_iff_toNat_le.mp upper
    have value : c.toNat = c.val.toNat := rfl
    omega
  exact dif_neg outside

theorem eq_of_toUpper (c mark : Char) (raised : c.toUpper = mark) (plain : mark.isUpper = false) : c = mark := by
  by_cases ascii : c.toNat < 0x80
  · have checked : c.toUpper.isUpper = false → c.toUpper = c := by
      apply of_codes c ascii
      decide
    rw [← raised] at plain
    rw [← raised, checked plain]
  · rwa [toUpper_of_not_ascii c (by omega)] at raised

theorem eq_toUpper_or (c : Char) : c = c.toUpper ∨ c = c.toUpper.toLower := by
  by_cases ascii : c.toNat < 0x80
  · apply of_codes c ascii
    decide
  · exact .inl (toUpper_of_not_ascii c (by omega)).symm

theorem eq_toLower_or (c : Char) : c = c.toLower ∨ c = c.toLower.toUpper := by
  by_cases ascii : c.toNat < 0x80
  · apply of_codes c ascii
    decide
  · exact .inl (toLower_of_not_ascii c (by omega)).symm

theorem of_isAlpha (c : Char) (alpha : c.isAlpha = true) : c.toNat < 0x80 := by
  have value : c.toNat = c.val.toNat := rfl
  rcases Bool.or_eq_true_iff.mp (alpha : (c.isUpper || c.isLower) = true) with upper | lower
  · have bound : c.val.toNat ≤ 0x5A := UInt32.le_iff_toNat_le.mp (of_decide_eq_true upper).2
    omega
  · have bound : c.val.toNat ≤ 0x7A := UInt32.le_iff_toNat_le.mp (of_decide_eq_true (Bool.and_eq_true_iff.mp lower).2)
    omega

theorem of_isDigit (c : Char) (digit : c.isDigit = true) : c.toNat < 0x80 := by
  have bound : c.val.toNat ≤ 0x39 := UInt32.le_iff_toNat_le.mp (of_decide_eq_true (Bool.and_eq_true_iff.mp digit).2)
  have value : c.toNat = c.val.toNat := rfl
  omega

end FileSieve.Ascii
