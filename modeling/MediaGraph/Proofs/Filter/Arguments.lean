/-
  MediaGraph.Proofs.Filter.Arguments — the arguments a built-in filter takes.

  Arguments are fields between colons, and a field that is a number has no colon in it
  (`Text.Spells.colon_not_mem`). So wherever a text is cut, at its first colon or at
  its first two, the fields of a text that is right are found (`cutColon_append`).

  `Takes` lists the right texts of each filter with the parameters they leave. Reading
  accepts these and no others; of any other it says whose arguments are wrong
  (`arguments_taken_iff`).
-/

import MediaGraph.Filter
import MediaGraph.Proofs.Text.Numeral

namespace MediaGraph

open MediaGraph.Text (Spells)

/-! ## Fields -/

theorem forall_ne_colon {cs : List Char} (h : ':' ∉ cs) : ∀ c ∈ cs, decide (c ≠ ':') = true := by
  intro c hc
  have hne : c ≠ ':' := by
    rintro rfl
    exact h hc
  simpa using hne

theorem cutColon_of_not_mem {s : String} (h : ':' ∉ s.toList) : cutColon s = (s, none) := by
  have all := forall_ne_colon h
  unfold cutColon
  rw [List.dropWhile_eq_nil_iff.mpr all, List.takeWhile_eq_self_iff.mpr all, String.ofList_toList]

theorem cutColon_append {a : String} (h : ':' ∉ a.toList) (b : String) : cutColon (a ++ ":" ++ b) = (a, some b) := by
  have all := forall_ne_colon h
  have chars : (a ++ ":" ++ b).toList = a.toList ++ ':' :: b.toList := by simp [String.toList_append]
  unfold cutColon
  rw [chars, List.takeWhile_append_of_pos all, List.dropWhile_append_of_pos all]
  simp [String.ofList_toList]

/-- A text is one field, or a first one and the rest. -/
theorem cutColon_cases (s : String) : cutColon s = (s, none) ∨ ∃ a b, s = a ++ ":" ++ b ∧ cutColon s = (a, some b) := by
  by_cases h : ':' ∈ s.toList
  · obtain ⟨as, bs, hs, ha⟩ := List.eq_append_cons_of_mem h
    have hcut : s = String.ofList as ++ ":" ++ String.ofList bs := by
      apply String.ext
      simp [String.toList_append, hs]
    refine .inr ⟨String.ofList as, String.ofList bs, hcut, ?_⟩
    rw [hcut]
    exact cutColon_append (by simpa using ha) _
  · exact .inl (cutColon_of_not_mem h)

theorem cutColon_number {w : String} {n : UInt32} (h : Spells w.toList n) (rest : String) :
    cutColon (w ++ ":" ++ rest) = (w, some rest) := cutColon_append h.colon_not_mem rest

theorem append_colon_ne_empty (a b : String) : a ++ ":" ++ b ≠ "" := by
  intro h
  have hlen := congrArg (fun s : String => s.toList.length) h
  simp [String.toList_append] at hlen

theorem ne_empty_of_spells {s : String} {n : UInt32} (h : Spells s.toList n) : s ≠ "" := by
  rintro rfl
  obtain ⟨front, sign, digits, back, hs, -, -, -, hne, -⟩ := h
  have hlen := congrArg List.length hs
  have hpos := List.length_pos_iff.mpr hne
  simp at hlen
  omega

theorem readNumber_eq_ok_iff {filter field value : String} {n : UInt32} :
    readNumber filter field value = .ok n ↔ Spells value.toList n := by
  rw [← Text.numeral?_eq_some_iff]
  unfold readNumber
  cases Text.numeral? value.toList <;> simp

theorem readNumber_of_spells {value : String} {n : UInt32} (h : Spells value.toList n) (filter field : String) :
    readNumber filter field value = .ok n := readNumber_eq_ok_iff.mpr h

/-! ## Who complains -/

/-- The filter type whose arguments are wrong. -/
def ArgumentError.filter : ArgumentError → String
  | notNumber filter _ _ | noHeight filter _ => filter

theorem ArgumentError.cls_report (e : ArgumentError) : e.report.cls = .filter e.filter := by cases e <;> rfl

theorem filter_of_readNumber {filter field value : String} {e : ArgumentError}
    (h : readNumber filter field value = .error e) : e.filter = filter := by
  unfold readNumber at h
  split at h <;> cases h
  rfl

/-! ## What is taken -/

namespace Builtin

/-- The arguments a filter takes, and what becomes of its parameters. A filter without parameters takes anything. -/
inductive Takes : Builtin → Option String → Builtin → Prop
  | missing (b : Builtin) : Takes b none b
  | empty (b : Builtin) : Takes b (some "") b
  | size {p : Scale} {W H : String} {w h : UInt32} : Spells W.toList w → Spells H.toList h →
      Takes (.scale p) (some (W ++ ":" ++ H)) (.scale { width := w, height := h, flags := none })
  | flags {p : Scale} {W H : String} {w h : UInt32} (F : String) : Spells W.toList w → Spells H.toList h →
      Takes (.scale p) (some (W ++ ":" ++ H ++ ":" ++ F))
        (.scale { width := w, height := h, flags := if F = "" then none else some F })
  | rate {p : Resample} {R : String} {r : UInt32} : Spells R.toList r →
      Takes (.resample p) (some R) (.resample { sampleRate := r })
  | frame {p : NullSource} {W H : String} {w h : UInt32} : Spells W.toList w → Spells H.toList h →
      Takes (.nullSource p) (some (W ++ ":" ++ H)) (.nullSource { width := w, height := h })
  | sound {p : NullAudioSource} {R : String} {r : UInt32} : Spells R.toList r →
      Takes (.nullAudioSource p) (some R) (.nullAudioSource { p with sampleRate := r })
  | channels {p : NullAudioSource} {R C : String} {r c : UInt32} : Spells R.toList r → Spells C.toList c →
      Takes (.nullAudioSource p) (some (R ++ ":" ++ C)) (.nullAudioSource { sampleRate := r, channels := c })
  | any (args : String) : Takes .null (some args) .null

/-- The type of a filter with parameters. Those without go by several names. -/
def typeName? : Builtin → Option String
  | scale _ => some "scale"
  | resample _ => some "resample"
  | null => none
  | nullSource _ => some "nullsrc"
  | nullAudioSource _ => some "anullsrc"

end Builtin

namespace Scale

variable {p q : Scale} {W H args : String} {w h : UInt32}

theorem read_size (hw : Spells W.toList w) (hh : Spells H.toList h) :
    p.read (W ++ ":" ++ H) = ({ width := w, height := h, flags := none }, .ok ()) := by
  unfold read
  simp only [cutColon_number hw, readNumber_of_spells hw, cutColon_of_not_mem hh.colon_not_mem, readNumber_of_spells hh]
  rfl

theorem read_flags (hw : Spells W.toList w) (hh : Spells H.toList h) (F : String) :
    p.read (W ++ ":" ++ H ++ ":" ++ F) =
      ({ width := w, height := h, flags := if F = "" then none else some F }, .ok ()) := by
  have hargs : W ++ ":" ++ H ++ ":" ++ F = W ++ ":" ++ (H ++ ":" ++ F) := by simp only [String.append_assoc]
  rw [hargs]
  unfold read
  simp only [cutColon_number hw, readNumber_of_spells hw, cutColon_number hh, readNumber_of_spells hh]
  by_cases hF : F = "" <;> simp [hF, Option.filter]

theorem takes_of_read (hr : p.read args = (q, .ok ())) : Builtin.Takes (.scale p) (some args) (.scale q) := by
  unfold read at hr
  split at hr
  · cases hr
  rename_i w hw
  rcases cutColon_cases args with hcut | ⟨W, rest, rfl, hcut⟩ <;> rw [hcut] at hw hr
  · cases hr
  simp only at hr
  split at hr
  · cases hr
  rename_i h hh
  rcases cutColon_cases rest with hcut | ⟨H, F, rfl, hcut⟩ <;> rw [hcut] at hh hr
  · cases hr
    exact .size (readNumber_eq_ok_iff.mp hw) (readNumber_eq_ok_iff.mp hh)
  · have hargs : W ++ ":" ++ (H ++ ":" ++ F) = W ++ ":" ++ H ++ ":" ++ F := by simp only [String.append_assoc]
    have hq : q = { width := w, height := h, flags := if F = "" then none else some F } := by
      have hq := (congrArg Prod.fst hr).symm
      by_cases hF : F = "" <;> simpa [hF, Option.filter] using hq
    rw [hargs, hq]
    exact .flags F (readNumber_eq_ok_iff.mp hw) (readNumber_eq_ok_iff.mp hh)

theorem filter_of_read {e : ArgumentError} (hr : p.read args = (q, .error e)) : e.filter = "scale" := by
  unfold read at hr
  split at hr
  · rename_i hw
    cases hr
    exact filter_of_readNumber hw
  split at hr
  · cases hr
    rfl
  split at hr
  · rename_i hh
    cases hr
    exact filter_of_readNumber hh
  · cases hr

end Scale

namespace Resample

variable {p q : Resample} {args : String}

theorem read_rate {r : UInt32} (hr : Spells args.toList r) : p.read args = ({ sampleRate := r }, .ok ()) := by
  unfold read
  rw [readNumber_of_spells hr]

theorem takes_of_read (h : p.read args = (q, .ok ())) : Builtin.Takes (.resample p) (some args) (.resample q) := by
  unfold read at h
  split at h
  · cases h
  · rename_i r hr
    cases h
    exact .rate (readNumber_eq_ok_iff.mp hr)

theorem filter_of_read {e : ArgumentError} (h : p.read args = (q, .error e)) : e.filter = "resample" := by
  unfold read at h
  split at h
  · rename_i hr
    cases h
    exact filter_of_readNumber hr
  · cases h

end Resample

namespace NullSource

variable {p q : NullSource} {W H args : String} {w h : UInt32}

theorem read_frame (hw : Spells W.toList w) (hh : Spells H.toList h) :
    p.read (W ++ ":" ++ H) = ({ width := w, height := h }, .ok ()) := by
  unfold read
  simp only [cutColon_number hw, readNumber_of_spells hw, readNumber_of_spells hh]

theorem takes_of_read (hr : p.read args = (q, .ok ())) :
    Builtin.Takes (.nullSource p) (some args) (.nullSource q) := by
  unfold read at hr
  rcases cutColon_cases args with hcut | ⟨W, H, rfl, hcut⟩ <;> rw [hcut] at hr
  · cases hr
  simp only at hr
  split at hr
  · cases hr
  rename_i w hw
  split at hr
  · cases hr
  rename_i h hh
  cases hr
  exact .frame (readNumber_eq_ok_iff.mp hw) (readNumber_eq_ok_iff.mp hh)

theorem filter_of_read {e : ArgumentError} (hr : p.read args = (q, .error e)) : e.filter = "nullsrc" := by
  unfold read at hr
  split at hr
  · cases hr
    rfl
  split at hr
  · rename_i hw
    cases hr
    exact filter_of_readNumber hw
  split at hr
  · rename_i hh
    cases hr
    exact filter_of_readNumber hh
  · cases hr

end NullSource

namespace NullAudioSource

variable {p q : NullAudioSource} {R C args : String} {r c : UInt32}

theorem read_sound (hr : Spells R.toList r) : p.read R = ({ p with sampleRate := r }, .ok ()) := by
  unfold read
  simp only [cutColon_of_not_mem hr.colon_not_mem, readNumber_of_spells hr]

theorem read_channels (hr : Spells R.toList r) (hc : Spells C.toList c) :
    p.read (R ++ ":" ++ C) = ({ sampleRate := r, channels := c }, .ok ()) := by
  unfold read
  simp only [cutColon_number hr, readNumber_of_spells hr, readNumber_of_spells hc]

theorem takes_of_read (h : p.read args = (q, .ok ())) :
    Builtin.Takes (.nullAudioSource p) (some args) (.nullAudioSource q) := by
  unfold read at h
  rcases cutColon_cases args with hcut | ⟨R, C, rfl, hcut⟩ <;> rw [hcut] at h <;> simp only at h
  · split at h
    · cases h
    · rename_i r hr
      cases h
      exact .sound (readNumber_eq_ok_iff.mp hr)
  · split at h
    · cases h
    rename_i r hr
    split at h
    · cases h
    rename_i c hc
    cases h
    exact .channels (readNumber_eq_ok_iff.mp hr) (readNumber_eq_ok_iff.mp hc)

theorem filter_of_read {e : ArgumentError} (h : p.read args = (q, .error e)) : e.filter = "anullsrc" := by
  unfold read at h
  split at h
  · rename_i hr
    cases h
    exact filter_of_readNumber hr
  split at h
  · cases h
  split at h
  · rename_i hc
    cases h
    exact filter_of_readNumber hc
  · cases h

end NullAudioSource

/-! ## Any filter -/

namespace Builtin

variable {b b' : Builtin} {args : Option String}

theorem init_of_takes (h : b.Takes args b') : b.init args = (b', .ok ()) := by
  have given : ∀ {b : Builtin} {s : String}, s ≠ "" → b.init (some s) = b.read s := fun hs => if_neg hs
  cases h with
  | missing | empty => rfl
  | any => exact ite_self _
  | size hw hh => rw [given (append_colon_ne_empty _ _), read, Scale.read_size hw hh]; rfl
  | flags F hw hh => rw [given (append_colon_ne_empty _ _), read, Scale.read_flags hw hh]; rfl
  | rate hr => rw [given (ne_empty_of_spells hr), read, Resample.read_rate hr]; rfl
  | frame hw hh => rw [given (append_colon_ne_empty _ _), read, NullSource.read_frame hw hh]; rfl
  | sound hr => rw [given (ne_empty_of_spells hr), read, NullAudioSource.read_sound hr]; rfl
  | channels hr hc => rw [given (append_colon_ne_empty _ _), read, NullAudioSource.read_channels hr hc]; rfl

theorem map_eq_ok {α : Type} {f : α → Builtin} {r : Reading α} (h : r.map f = (b', .ok ())) :
    ∃ q, r = (q, .ok ()) ∧ f q = b' := by
  obtain ⟨q, answer⟩ := r
  cases h
  exact ⟨q, rfl, rfl⟩

theorem map_eq_error {α : Type} {f : α → Builtin} {r : Reading α} {e : ArgumentError}
    (h : (r.map f).2 = .error e) : ∃ q, r = (q, .error e) := by
  obtain ⟨q, answer⟩ := r
  cases h
  exact ⟨q, rfl⟩

theorem takes_of_read {s : String} (h : b.read s = (b', .ok ())) : b.Takes (some s) b' := by
  cases b with
  | scale p =>
    obtain ⟨q, hq, rfl⟩ := map_eq_ok h
    exact Scale.takes_of_read hq
  | resample p =>
    obtain ⟨q, hq, rfl⟩ := map_eq_ok h
    exact Resample.takes_of_read hq
  | null =>
    cases h
    exact .any s
  | nullSource p =>
    obtain ⟨q, hq, rfl⟩ := map_eq_ok h
    exact NullSource.takes_of_read hq
  | nullAudioSource p =>
    obtain ⟨q, hq, rfl⟩ := map_eq_ok h
    exact NullAudioSource.takes_of_read hq

theorem init_eq_ok_iff : b.init args = (b', .ok ()) ↔ b.Takes args b' := by
  refine ⟨fun h => ?_, init_of_takes⟩
  cases args with
  | none =>
    cases h
    exact .missing b
  | some s =>
    unfold init at h
    simp only at h
    split at h
    · rename_i hs
      cases h
      rw [hs]
      exact .empty b
    · exact takes_of_read h

theorem typeName?_of_read {s : String} {e : ArgumentError} (h : (b.read s).2 = .error e) :
    b.typeName? = some e.filter := by
  cases b with
  | scale p =>
    obtain ⟨q, hq⟩ := map_eq_error h
    rw [Scale.filter_of_read hq, typeName?]
  | resample p =>
    obtain ⟨q, hq⟩ := map_eq_error h
    rw [Resample.filter_of_read hq, typeName?]
  | null => cases h
  | nullSource p =>
    obtain ⟨q, hq⟩ := map_eq_error h
    rw [NullSource.filter_of_read hq, typeName?]
  | nullAudioSource p =>
    obtain ⟨q, hq⟩ := map_eq_error h
    rw [NullAudioSource.filter_of_read hq, typeName?]

theorem typeName?_of_init {e : ArgumentError} (h : (b.init args).2 = .error e) : b.typeName? = some e.filter := by
  cases args with
  | none => cases h
  | some s =>
    unfold init at h
    simp only at h
    split at h
    · cases h
    · exact typeName?_of_read h

end Builtin

namespace Filter

variable {b b' : Builtin} {args : Option String} {h : History} {serial : Nat} {context : Option Context}

theorem init_builtin_eq_done_iff :
    (builtin b).init h serial args context = (builtin b', .done) ↔ b.init args = (b', .ok ()) := by
  rw [init]
  rcases b.init args with ⟨b'', _ | _⟩ <;> simp

theorem init_builtin_refused {e : ArgumentError} (he : (b.init args).2 = .error e) :
    ((builtin b).init h serial args context).2 = .refused e.report := by
  rw [init, he]

/-- A filter with parameters takes the arguments of its grammar, stores what they say, and refuses all others in the name
of its type. -/
theorem arguments_taken_iff (b : Builtin) (args : Option String) (h : History) (serial : Nat)
    (context : Option Context) :
    (∀ b', (builtin b).init h serial args context = (builtin b', .done) ↔ b.Takes args b') ∧
      ((∀ b', ¬ b.Takes args b') → ∃ name report, b.typeName? = some name ∧
        ((builtin b).init h serial args context).2 = .refused report ∧ report.cls = .filter name) := by
  refine ⟨fun b' => init_builtin_eq_done_iff.trans Builtin.init_eq_ok_iff, fun hno => ?_⟩
  cases hinit : (b.init args).2 with
  | ok => exact absurd (Builtin.init_eq_ok_iff.mp (Prod.ext rfl hinit)) (hno (b.init args).1)
  | error e =>
    exact ⟨e.filter, e.report, Builtin.typeName?_of_init hinit, init_builtin_refused hinit, e.cls_report⟩

/-- Signs, leading zeros and blanks are read over; a minus sign is not. -/
theorem scale_takes_signs :
    (Builtin.scale {}).Takes (some " +0640:480\t:a:b") (.scale { width := 640, height := 480, flags := some "a:b" }) ∧
      (∀ b', ¬ (Builtin.scale {}).Takes (some "-1:480") b') ∧
      ∃ report, ((builtin (.scale {})).init [] 0 (some "-1:480") none).2 = .refused report ∧
        report.cls = .filter "scale" := by
  obtain ⟨taken, -⟩ := arguments_taken_iff (.scale {}) (some " +0640:480\t:a:b") [] 0 none
  obtain ⟨taken', refused⟩ := arguments_taken_iff (.scale {}) (some "-1:480") [] 0 none
  have bad : ∀ b', ¬ (Builtin.scale {}).Takes (some "-1:480") b' := by
    intro b' hb
    have done := congrArg Prod.snd ((taken' b').mpr hb)
    have refuses : ((builtin (.scale {})).init [] 0 (some "-1:480") none).2 ≠ .done := by decide +kernel
    exact refuses done
  obtain ⟨name, report, hname, hreport, hcls⟩ := refused bad
  obtain rfl : "scale" = name := Option.some.inj hname
  exact ⟨(taken _).mp rfl, bad, report, hreport, hcls⟩

end Filter

end MediaGraph
