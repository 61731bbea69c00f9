/-
  MediaGraph.Proofs.Format.Set — sets made in any way, and what two of them have in common.

  A `Recipe` is any sequence of the calls that make a set and change one. Beside the set
  it makes stands the list it ought to come to, told without a set (`Recipe.listing`):
  of a list of formats those of the kind remain, each at its first place; a candidate is
  added last, once; pinning leaves one candidate or changes nothing; an intersection is
  the left list less what the right one lacks. Every recipe makes the set of its list
  (`Recipe.formats_set`), and every set has a recipe (`ofList_formats`).

  Merging replaces two sets by their intersection, link after link, and the first
  candidate of the last one decides. So the order counts: intersecting is associative
  and idempotent as an equality of lists (`intersect_assoc`, `intersect_self`), while
  sides change places only up to the order (`mem_intersect_comm`).
-/

import MediaGraph.Format.Set
import Mathlib.Data.List.Induction

namespace MediaGraph.FormatSet

theorem eq_of_formats {s t : FormatSet} (hkind : s.kind = t.kind) (hformats : s.formats = t.formats) : s = t := by
  cases s
  cases t
  cases hkind
  cases hformats
  rfl

/-! ## Adding and pinning -/

theorem kind_push (s : FormatSet) (f : Format) : ((s.push? f).getD s).kind = s.kind := by
  unfold push?
  split <;> rfl

theorem formats_push (s : FormatSet) (f : Format) :
    ((s.push? f).getD s).formats = if f.kind = s.kind ∧ f ∉ s then s.formats ++ [f] else s.formats := by
  unfold push?
  split <;> rfl

theorem kind_pin (s : FormatSet) (f : Format) : ((s.pin? f).getD s).kind = s.kind := by
  unfold pin?
  split <;> rfl

theorem formats_pin (s : FormatSet) (f : Format) :
    ((s.pin? f).getD s).formats = if f ∈ s then [f] else s.formats := by
  unfold pin?
  split <;> rfl

theorem isSome_pin? (s : FormatSet) (f : Format) : (s.pin? f).isSome ↔ f ∈ s := by
  unfold pin?
  split <;> rename_i h <;> simp [h]

/-! ## Lists of formats -/

theorem ofList_concat (kind : MediaKind) (formats : List Format) (f : Format) :
    ofList kind (formats ++ [f]) = ((ofList kind formats).push? f).getD (ofList kind formats) := by
  simp only [ofList, List.foldl_append, List.foldl_cons, List.foldl_nil]

theorem kind_ofList (kind : MediaKind) (formats : List Format) : (ofList kind formats).kind = kind := by
  induction formats using List.reverseRecOn with
  | nil => rfl
  | append_singleton formats f ih => rw [ofList_concat, kind_push, ih]

/-- The formats of the kind, each at its first place. By induction from the end, as the list is read from the front. -/
theorem formats_ofList (kind : MediaKind) (formats : List Format) :
    (ofList kind formats).formats = (formats.filter (·.kind = kind)).eraseDups := by
  induction formats using List.reverseRecOn with
  | nil => rfl
  | append_singleton formats f ih =>
    have listed : f ∈ ofList kind formats ↔ f ∈ formats.filter (·.kind = kind) := by
      rw [mem_def, ih, List.mem_eraseDups]
    rw [ofList_concat, formats_push, List.filter_append, List.eraseDups_append]
    simp only [kind_ofList, listed, ih]
    by_cases hkind : f.kind = kind
    · by_cases hf : f ∈ formats <;> simp [List.removeAll, List.eraseDups_cons, hkind, hf]
    · simp [hkind]

theorem eraseDups_of_nodup {l : List Format} (h : l.Nodup) : l.eraseDups = l := by
  induction l with
  | nil => rfl
  | cons f l ih =>
    obtain ⟨hf, hl⟩ := List.nodup_cons.mp h
    have others : l.filter (fun g => !g == f) = l :=
      List.filter_eq_self.mpr fun g hg => by simpa using fun e : g = f => hf (e ▸ hg)
    rw [List.eraseDups_cons, others, ih hl]

/-- A set is what its candidates make. -/
theorem ofList_formats (s : FormatSet) : ofList s.kind s.formats = s := by
  refine eq_of_formats (kind_ofList _ _) ?_
  rw [formats_ofList, List.filter_eq_self.mpr fun f hf => decide_eq_true (s.ofKind f hf), eraseDups_of_nodup s.nodup]

/-! ## Intersecting -/

theorem intersect_assoc (a b c : FormatSet) : (a.intersect b).intersect c = a.intersect (b.intersect c) := by
  refine eq_of_formats (by simp only [kind_intersect]) ?_
  calc ((a.intersect b).intersect c).formats
      = (a.formats.filter (· ∈ b)).filter (· ∈ c) := by rw [formats_intersect, formats_intersect]
    _ = a.formats.filter (· ∈ b.intersect c) := by
      rw [List.filter_filter]
      exact List.filter_congr fun f _ => by simp [mem_intersect, Bool.and_comm]
    _ = (a.intersect (b.intersect c)).formats := (formats_intersect _ _).symm

theorem intersect_self (a : FormatSet) : a.intersect a = a := by
  refine eq_of_formats (kind_intersect a a) ?_
  rw [formats_intersect]
  exact List.filter_eq_self.mpr fun f hf => decide_eq_true hf

theorem mem_intersect_comm (a b : FormatSet) (f : Format) : f ∈ a.intersect b ↔ f ∈ b.intersect a := by
  rw [mem_intersect, mem_intersect, and_comm]

theorem formats_intersect_of_kinds (a b : FormatSet) :
    (a.intersect b).formats = if a.kind = b.kind then a.formats.filter (· ∈ b) else [] := by
  unfold intersect
  split <;> rfl

/-! ## Recipes -/

/-- The ways to a set. -/
inductive Recipe where
  | new (kind : MediaKind)
  | ofList (kind : MediaKind) (formats : List Format)
  | all (kind : MediaKind)
  | push (r : Recipe) (f : Format)
  | pin (r : Recipe) (f : Format)
  | intersect (r t : Recipe)

namespace Recipe

/-- A format that cannot be added or pinned leaves the set as it is. -/
def set : Recipe → FormatSet
  | new kind => .empty kind
  | ofList kind formats => .ofList kind formats
  | all kind => .all kind
  | push r f => (r.set.push? f).getD r.set
  | pin r f => (r.set.pin? f).getD r.set
  | intersect r t => r.set.intersect t.set

def kind : Recipe → MediaKind
  | new kind | ofList kind _ | all kind => kind
  | push r _ | pin r _ | intersect r _ => r.kind

/-- The candidates a recipe ought to come to. -/
def listing : Recipe → List Format
  | new _ => []
  | ofList kind formats => (formats.filter (·.kind = kind)).eraseDups
  | all .video => PixelFormat.all.map .video
  | all .audio => SampleFormat.all.map .audio
  | all .other => []
  | push r f => if f.kind = r.kind ∧ f ∉ r.listing then r.listing ++ [f] else r.listing
  | pin r f => if f ∈ r.listing then [f] else r.listing
  | intersect r t => if r.kind = t.kind then r.listing.filter (· ∈ t.listing) else []

theorem kind_set (r : Recipe) : r.set.kind = r.kind := by
  induction r with
  | new kind => rfl
  | ofList kind formats => exact kind_ofList kind formats
  | all kind => cases kind <;> rfl
  | push r f ih => exact (kind_push r.set f).trans ih
  | pin r f ih => exact (kind_pin r.set f).trans ih
  | intersect r t ih _ => exact (kind_intersect r.set t.set).trans ih

theorem formats_set (r : Recipe) : r.set.formats = r.listing := by
  induction r with
  | new kind => rfl
  | ofList kind formats => exact formats_ofList kind formats
  | all kind => cases kind <;> decide
  | push r f ih => simp only [set, listing, formats_push, kind_set, mem_def, ih]
  | pin r f ih => simp only [set, listing, formats_pin, mem_def, ih]
  | intersect r t ihr iht => simp only [set, listing, formats_intersect_of_kinds, kind_set, mem_def, ihr, iht]

end Recipe

theorem well_formed_and_intersect_lawful :
    (∀ r : Recipe, r.set.kind = r.kind ∧ r.set.formats = r.listing ∧ r.listing.Nodup ∧
      ∀ f ∈ r.listing, f.kind = r.kind) ∧
    (∀ s : FormatSet, ∃ r : Recipe, r.set = s) ∧
    (∀ a b : FormatSet, (a.intersect b).kind = a.kind ∧
      (a.intersect b).formats = if a.kind = b.kind then a.formats.filter (· ∈ b) else []) ∧
    (∀ a b c : FormatSet, (a.intersect b).intersect c = a.intersect (b.intersect c)) ∧
    (∀ a : FormatSet, a.intersect a = a) ∧
    (∀ (a b : FormatSet) (f : Format), f ∈ a.intersect b ↔ f ∈ b.intersect a) ∧
    (∀ (a : FormatSet) (f : Format), ((a.pin? f).isSome ↔ f ∈ a) ∧ ((a.pin? f).getD a).kind = a.kind ∧
      ((a.pin? f).getD a).formats = if f ∈ a then [f] else a.formats) := by
  refine ⟨fun r => ⟨r.kind_set, r.formats_set, ?_, ?_⟩, fun s => ⟨.ofList s.kind s.formats, s.ofList_formats⟩,
    fun a b => ⟨kind_intersect a b, formats_intersect_of_kinds a b⟩, intersect_assoc, intersect_self,
    mem_intersect_comm, fun a f => ⟨isSome_pin? a f, kind_pin a f, formats_pin a f⟩⟩
  · rw [← r.formats_set]
    exact r.set.nodup
  · rw [← r.formats_set, ← r.kind_set]
    exact r.set.ofKind

end MediaGraph.FormatSet
