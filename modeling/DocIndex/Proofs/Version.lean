import DocIndex.Proofs.Text.Decimal
import DocIndex.Proofs.Text.Pieces
import DocIndex.Proofs.Text.Trim
import DocIndex.Version

/-!
Release numbers are read from three numerals with dots between them, and read back from the text
that writes them.
-/
namespace DocIndex.Version

def Triple (text : Text) (major minor patch : Nat) : Prop :=
  ∃ t u w, text = t ++ '.' :: u ++ '.' :: w ∧ Text.Numeral t major ∧ Text.Numeral u minor ∧
    Text.Numeral w patch

theorem part?_eq_some_iff {t : Text} {p : UInt32} :
    part? t = some p ↔ Text.Numeral t p.toNat := by
  rw [part?, Option.map_eq_some_iff]
  constructor
  · rintro ⟨n, hn, rfl⟩
    obtain ⟨hnumeral, hlt⟩ := Text.natBelow?_eq_some_iff.mp hn
    rwa [UInt32.toNat_ofNat_of_lt' hlt]
  · intro h
    exact ⟨p.toNat, Text.natBelow?_eq_some_iff.mpr ⟨h, p.toNat_lt⟩, UInt32.ofNat_toNat⟩

theorem ofText_eq_ok_iff {t : Text} {v : Version} :
    ofText t = .ok v ↔
      Triple (Text.trim t) v.major.toNat v.minor.toNat v.patch.toNat := by
  constructor
  · intro h
    unfold ofText at h
    split at h
    next major minor patch hparts =>
      obtain rfl := Except.ok.inj h
      simp only [List.map_eq_cons_iff, List.map_eq_nil_iff] at hparts
      obtain ⟨a, _, hsplit, ha, b, _, rfl, hb, c, _, rfl, hc, rfl⟩ := hparts
      have htext : ['.'].intercalate ((Text.trim t).splitOn '.') = Text.trim t :=
        List.intercalate_splitOn '.'
      rw [hsplit, Text.intercalate_triple] at htext
      exact ⟨a, b, c, htext.symm, part?_eq_some_iff.mp ha, part?_eq_some_iff.mp hb,
        part?_eq_some_iff.mp hc⟩
    next => cases h
  · rintro ⟨a, b, c, htext, ha, hb, hc⟩
    have hsplit : (Text.trim t).splitOn '.' = [a, b, c] := by
      rw [htext, ← Text.intercalate_triple]
      refine List.splitOn_intercalate '.' ?_ (List.cons_ne_nil _ _)
      simp [ha.dot_not_mem, hb.dot_not_mem, hc.dot_not_mem]
    simp only [ofText, hsplit, List.map_cons, List.map_nil, part?_eq_some_iff.mpr ha,
      part?_eq_some_iff.mpr hb, part?_eq_some_iff.mpr hc]

/-- Three numerals have no blanks at their ends. -/
theorem Triple.trim {t : Text} {major minor patch : Nat} (h : Triple t major minor patch) :
    Text.trim t = t := by
  obtain ⟨a, b, c, rfl, ha, hb, hc⟩ := h
  refine Text.trimWhile_eq_self fun d hd => ?_
  simp only [List.mem_append, List.mem_cons] at hd
  rcases hd with (hd | rfl | hd) | rfl | hd
  · exact ha.isBlank d hd
  · decide
  · exact hb.isBlank d hd
  · decide
  · exact hc.isBlank d hd

theorem triple_text (v : Version) : Triple v.text v.major.toNat v.minor.toNat v.patch.toNat :=
  ⟨_, _, _, rfl, Text.numeral_ofNat _, Text.numeral_ofNat _, Text.numeral_ofNat _⟩

/-- A release number is read back from its text. -/
theorem ofText_text (v : Version) : ofText v.text = .ok v := by
  rw [ofText_eq_ok_iff, v.triple_text.trim]
  exact v.triple_text

theorem text_injective : Function.Injective text := by
  intro v w h
  have hread : ofText v.text = .ok w := h ▸ ofText_text w
  exact Except.ok.inj ((ofText_text v).symm.trans hread)

theorem slash_not_mem_text (v : Version) : '/' ∉ v.text := by
  simp [text, Text.not_mem_ofNat]

/-- A text is read exactly if it holds three numerals with dots between them, and blanks at its ends
only, and none of the numbers is too large for its part. -/
theorem exists_ofText_eq_ok_iff {t : Text} :
    (∃ v, ofText t = .ok v) ↔ ∃ major minor patch, Triple (Text.trim t) major minor patch ∧
      major ≤ 4294967295 ∧ minor ≤ 4294967295 ∧ patch ≤ 4294967295 := by
  constructor
  · rintro ⟨v, hv⟩
    have hmajor : v.major.toNat < 4294967296 := v.major.toNat_lt
    have hminor : v.minor.toNat < 4294967296 := v.minor.toNat_lt
    have hpatch : v.patch.toNat < 4294967296 := v.patch.toNat_lt
    exact ⟨_, _, _, ofText_eq_ok_iff.mp hv, by omega, by omega, by omega⟩
  · rintro ⟨major, minor, patch, htriple, hmajor, hminor, hpatch⟩
    refine ⟨⟨.ofNat major, .ofNat minor, .ofNat patch⟩, ofText_eq_ok_iff.mpr ?_⟩
    have hsize : UInt32.size = 4294967296 := rfl
    rwa [UInt32.toNat_ofNat_of_lt' (by omega), UInt32.toNat_ofNat_of_lt' (by omega),
      UInt32.toNat_ofNat_of_lt' (by omega)]

end DocIndex.Version
