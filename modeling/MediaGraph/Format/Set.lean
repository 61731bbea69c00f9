/-
  MediaGraph.Format.Set — the candidate formats of one end of a link.

  A set belongs to one media kind and lists its candidates in order of
  preference: where nothing else decides, the first one is taken. The candidates
  are distinct and of the set's own kind; `push?` refuses one that is not.
  `intersect` keeps the order of its left side; `pin?` leaves one candidate.
-/

import MediaGraph.Format

namespace MediaGraph

structure FormatSet where
  kind : MediaKind
  formats : List Format
  ofKind : ∀ f ∈ formats, f.kind = kind
  nodup : formats.Nodup
  deriving DecidableEq, Repr

namespace FormatSet

def empty (kind : MediaKind) : FormatSet := ⟨kind, [], by simp, .nil⟩

instance : Membership Format FormatSet := ⟨fun s f => f ∈ s.formats⟩

instance (f : Format) (s : FormatSet) : Decidable (f ∈ s) := inferInstanceAs (Decidable (f ∈ s.formats))

theorem mem_def {f : Format} {s : FormatSet} : f ∈ s ↔ f ∈ s.formats := Iff.rfl

def size (s : FormatSet) : Nat := s.formats.length

def first? (s : FormatSet) : Option Format := s.formats.head?

def isEmpty (s : FormatSet) : Bool := s.formats.isEmpty

def isFixed (s : FormatSet) : Bool := s.size == 1

theorem ofKind_push {s : FormatSet} {f : Format} (h : f.kind = s.kind) :
    ∀ g ∈ s.formats ++ [f], g.kind = s.kind := by
  intro g hg
  rcases List.mem_append.mp hg with hg | hg
  · exact s.ofKind g hg
  · rw [List.mem_singleton.mp hg, h]

theorem nodup_push {s : FormatSet} {f : Format} (h : f ∉ s) : (s.formats ++ [f]).Nodup :=
  List.nodup_append.mpr ⟨s.nodup, by simp, fun a ha b hb e => h (by rw [List.mem_singleton.mp hb] at e; exact e ▸ ha)⟩

/-- Add a last choice, unless it is listed already or of another kind. -/
def push? (s : FormatSet) (f : Format) : Option FormatSet :=
  if h : f.kind = s.kind ∧ f ∉ s then some ⟨s.kind, s.formats ++ [f], ofKind_push h.1, nodup_push h.2⟩ else none

/-- The candidates of `formats` in the order given, less those `push?` refuses. -/
def ofList (kind : MediaKind) (formats : List Format) : FormatSet :=
  formats.foldl (fun s f => (s.push? f).getD s) (empty kind)

/-- Every format of a kind. Other media have none that can be listed. -/
def all : MediaKind → FormatSet
  | .video => ofList .video (PixelFormat.all.map .video)
  | .audio => ofList .audio (SampleFormat.all.map .audio)
  | .other => empty .other

/-- The candidates both sets list, in the order of the first. -/
def intersect (s t : FormatSet) : FormatSet :=
  if s.kind = t.kind then
    ⟨s.kind, s.formats.filter (· ∈ t), fun f h => s.ofKind f (List.mem_filter.mp h).1, s.nodup.filter _⟩
  else empty s.kind

/-- Leave one candidate, which must be listed. -/
def pin? (s : FormatSet) (f : Format) : Option FormatSet :=
  if h : f ∈ s then some ⟨s.kind, [f], by simpa using s.ofKind f h, by simp⟩ else none

def toString (s : FormatSet) : String :=
  "\x7b" ++ ", ".intercalate (s.formats.map Format.name) ++ "\x7d"

instance : ToString FormatSet := ⟨toString⟩

/-! ## Candidates -/

@[simp]
theorem kind_intersect (s t : FormatSet) : (s.intersect t).kind = s.kind := by
  unfold intersect; split <;> rfl

/-- Sets with a common candidate are of one kind, so only the candidates count. -/
theorem mem_intersect {s t : FormatSet} {f : Format} : f ∈ s.intersect t ↔ f ∈ s ∧ f ∈ t := by
  unfold intersect
  split
  · simp [mem_def]
  · rename_i h
    refine ⟨fun hf => absurd hf List.not_mem_nil, fun ⟨hs, ht⟩ => ?_⟩
    exact absurd ((s.ofKind f hs).symm.trans (t.ofKind f ht)) h

/-- Sets of different kinds have no candidate to keep. -/
theorem formats_intersect (s t : FormatSet) : (s.intersect t).formats = s.formats.filter (· ∈ t) := by
  unfold intersect
  split
  · rfl
  · rename_i h
    refine (List.filter_eq_nil_iff.mpr fun f hs ht => h ?_).symm
    exact (s.ofKind f hs).symm.trans (t.ofKind f (of_decide_eq_true ht))

theorem intersect_sublist (s t : FormatSet) : (s.intersect t).formats.Sublist s.formats := by
  unfold intersect
  split
  · exact List.filter_sublist
  · exact List.nil_sublist _

theorem isEmpty_eq_false_iff {s : FormatSet} : s.isEmpty = false ↔ ∃ f, f ∈ s :=
  List.isEmpty_eq_false_iff_exists_mem

theorem pin?_eq_some_iff {s t : FormatSet} {f : Format} :
    s.pin? f = some t ↔ f ∈ s ∧ t.kind = s.kind ∧ t.formats = [f] := by
  unfold pin?
  split
  · rename_i h
    rw [Option.some.injEq]
    refine ⟨fun e => by subst e; exact ⟨h, rfl, rfl⟩, fun ⟨_, hk, hf⟩ => ?_⟩
    cases t; simp_all
  · rename_i h
    simp [h]

theorem first?_isSome_iff {s : FormatSet} : s.first?.isSome ↔ ∃ f, f ∈ s := by
  rw [first?, List.isSome_head?]
  exact ⟨List.exists_mem_of_ne_nil s.formats, fun ⟨_, hf⟩ => List.ne_nil_of_mem hf⟩

theorem first?_mem {s : FormatSet} {f : Format} (h : s.first? = some f) : f ∈ s :=
  List.mem_of_head? h

end FormatSet

end MediaGraph
