/-
  MediaGraph.Proofs.Text.Numeral — which texts spell a number.

  A number is spelled by decimal digits, with at most one plus sign before them and
  any blanks around (`Spells`). Reading a numeral takes the blanks off, then the sign,
  and adds up the digits; it gives a number exactly where the text spells it
  (`numeral?_eq_some_iff`).
-/

import Mathlib.Data.List.DropRight
import Mathlib.Data.Nat.Digits.Defs
import MediaGraph.Text.Numeral

namespace MediaGraph.Text

/-- The text is decimal digits of the number, after at most one plus sign and between blanks. -/
def Spells (cs : List Char) (n : UInt32) : Prop :=
  ∃ front sign digits back, cs = front ++ (sign ++ digits) ++ back ∧ (∀ c ∈ front, isBlank c = true) ∧
    (∀ c ∈ back, isBlank c = true) ∧ (sign = [] ∨ sign = ['+']) ∧ digits ≠ [] ∧ (∀ c ∈ digits, c.isDigit = true) ∧
    Nat.ofDigits 10 (digits.reverse.map digitValue) = n.toNat

/-! ## Blanks -/

theorem isBlank_of_isDigit {c : Char} (h : c.isDigit = true) : isBlank c = false := by
  obtain ⟨hlo, hhi⟩ := Char.isDigit_iff_toNat.mp h
  simp only [Char.reduceToNat] at hlo hhi
  simp only [isBlank, inRanges, blankRanges, List.any_cons, List.any_nil, Bool.or_false, Bool.or_eq_false_iff,
    Bool.and_eq_false_iff, decide_eq_false_iff_not]
  omega

/-- Nothing but blanks is taken off. -/
theorem exists_eq_trim (cs : List Char) : ∃ front back, cs = front ++ trim cs ++ back ∧
    (∀ c ∈ front, isBlank c = true) ∧ ∀ c ∈ back, isBlank c = true := by
  refine ⟨cs.takeWhile isBlank, (cs.dropWhile isBlank).rtakeWhile isBlank, ?_, ?_, ?_⟩
  · have back : trim cs ++ (cs.dropWhile isBlank).rtakeWhile isBlank = cs.dropWhile isBlank :=
      List.rdropWhile_append_rtakeWhile
    rw [List.append_assoc, back, List.takeWhile_append_dropWhile]
  · exact fun c hc => List.mem_takeWhile_imp hc
  · exact fun c hc => List.mem_rtakeWhile_imp hc

theorem dropWhile_isBlank {front core : List Char} (hfront : ∀ c ∈ front, isBlank c = true)
    (hcore : ∀ c ∈ core, isBlank c = false) (hne : core ≠ []) (back : List Char) :
    (front ++ (core ++ back)).dropWhile isBlank = core ++ back := by
  rw [List.dropWhile_append_of_pos hfront]
  cases core with
  | nil => exact absurd rfl hne
  | cons c core => exact List.dropWhile_cons_of_neg (by simp [hcore c List.mem_cons_self])

/-- A text without blanks comes out of the blanks around it. -/
theorem trim_eq {front core back : List Char} (hfront : ∀ c ∈ front, isBlank c = true)
    (hback : ∀ c ∈ back, isBlank c = true) (hcore : ∀ c ∈ core, isBlank c = false) (hne : core ≠ []) :
    trim (front ++ core ++ back) = core := by
  have behind : (back.reverse ++ (core.reverse ++ [])).dropWhile isBlank = core.reverse ++ [] := by
    apply dropWhile_isBlank
    · simpa using hback
    · simpa using hcore
    · simpa using hne
  rw [List.append_nil] at behind
  rw [trim, List.append_assoc, dropWhile_isBlank hfront hcore hne, List.reverse_append, behind, List.reverse_reverse]

/-! ## Signs and digits -/

theorem dropPlus_append {sign digits : List Char} (hsign : sign = [] ∨ sign = ['+']) (hne : digits ≠ [])
    (hdigits : ∀ c ∈ digits, c.isDigit = true) : dropPlus (sign ++ digits) = digits := by
  rcases hsign with rfl | rfl
  · cases digits with
    | nil => exact absurd rfl hne
    | cons c digits =>
      have hc : c ≠ '+' := by
        rintro rfl
        exact absurd (hdigits '+' List.mem_cons_self) (by decide)
      unfold dropPlus
      simp [hc]
  · rfl

/-- At most a plus sign is taken off. -/
theorem exists_eq_dropPlus (cs : List Char) : ∃ sign, (sign = [] ∨ sign = ['+']) ∧ cs = sign ++ dropPlus cs := by
  unfold dropPlus
  split
  · exact ⟨['+'], .inr rfl, rfl⟩
  · exact ⟨[], .inl rfl, rfl⟩

theorem decimalValue_concat (ds : List Char) (c : Char) :
    decimalValue (ds ++ [c]) = digitValue c + 10 * decimalValue ds := by
  rw [decimalValue, List.foldl_append, decimalValue]
  simp only [List.foldl_cons, List.foldl_nil]
  omega

/-- The last digit counts once, the one before it ten times, and so on. -/
theorem decimalValue_eq (ds : List Char) : decimalValue ds = Nat.ofDigits 10 (ds.reverse.map digitValue) := by
  induction ds using List.reverseRecOn with
  | nil => rfl
  | append_singleton ds c ih =>
    rw [decimalValue_concat, ih, List.reverse_append, List.reverse_singleton, List.singleton_append, List.map_cons,
      Nat.ofDigits_cons]

theorem numeral?_eq_some_iff {cs : List Char} {n : UInt32} : numeral? cs = some n ↔ Spells cs n := by
  constructor
  · intro h
    unfold numeral? at h
    simp only at h
    split at h
    · rename_i hread
      obtain ⟨hne, hdigits, hlt⟩ := hread
      obtain ⟨front, back, hcs, hfront, hback⟩ := exists_eq_trim cs
      obtain ⟨sign, hsign, htrim⟩ := exists_eq_dropPlus (trim cs)
      rw [htrim] at hcs
      refine ⟨front, sign, dropPlus (trim cs), back, hcs, hfront, hback, hsign, hne, List.all_eq_true.mp hdigits, ?_⟩
      rw [← decimalValue_eq, ← Option.some.inj h, UInt32.toNat_ofNat_of_lt' hlt]
    · cases h
  · intro h
    obtain ⟨front, sign, digits, back, rfl, hfront, hback, hsign, hne, hdigits, hvalue⟩ := h
    have hcore : ∀ c ∈ sign ++ digits, isBlank c = false := by
      intro c hc
      rcases List.mem_append.mp hc with hc | hc
      · rcases hsign with rfl | rfl
        · cases hc
        · rw [List.mem_singleton.mp hc]
          decide
      · exact isBlank_of_isDigit (hdigits c hc)
    have hdrop : dropPlus (trim (front ++ (sign ++ digits) ++ back)) = digits := by
      rw [trim_eq hfront hback hcore (List.append_ne_nil_of_right_ne_nil sign hne), dropPlus_append hsign hne hdigits]
    have hnat : decimalValue digits = n.toNat := (decimalValue_eq digits).trans hvalue
    unfold numeral?
    simp only [hdrop]
    rw [if_pos ⟨hne, List.all_eq_true.mpr hdigits, by rw [hnat]; exact n.toNat_lt⟩, hnat, UInt32.ofNat_toNat]

theorem spells_zero : Spells "0".toList 0 := numeral?_eq_some_iff.mp (by decide)

theorem Spells.mem_cases {cs : List Char} {n : UInt32} (h : Spells cs n) {c : Char} (hc : c ∈ cs) :
    isBlank c = true ∨ c = '+' ∨ c.isDigit = true := by
  obtain ⟨front, sign, digits, back, rfl, hfront, hback, hsign, -, hdigits, -⟩ := h
  simp only [List.mem_append] at hc
  rcases hc with (hc | hc | hc) | hc
  · exact .inl (hfront c hc)
  · rcases hsign with rfl | rfl
    · cases hc
    · exact .inr (.inl (List.mem_singleton.mp hc))
  · exact .inr (.inr (hdigits c hc))
  · exact .inl (hback c hc)

theorem Spells.colon_not_mem {cs : List Char} {n : UInt32} (h : Spells cs n) : ':' ∉ cs := by
  intro hc
  rcases h.mem_cases hc with hblank | hplus | hdigit
  · exact absurd hblank (by decide)
  · exact absurd hplus (by decide)
  · exact absurd hdigit (by decide)

end MediaGraph.Text
