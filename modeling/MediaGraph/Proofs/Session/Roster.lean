/-
  MediaGraph.Proofs.Session.Roster — who is there, and what was called on each.

  As far as instances go a session is a roster: the calls made, the next serial, the
  instances in the graph and those kept outside. What can happen to it comes to turns
  (`Turn`): an instance is opened, initialized and added, or opened in vain and
  discarded; one in the graph is asked; one outside is worked with, added or
  discarded; the graph is freed. Only a caller who opens a node keeps a new instance
  outside (`Round`).

  A round comes to little for an instance that was opened before: nothing, one more
  call, or its last (`Fate`). One opened in the round is added, refused or kept
  outside (`Debut`). From the two:
  - `Round.sound`: every instance was opened first and once, and one that is gone was
    uninitialized, once and last of all;
  - `Round.retired`: on one that is gone nothing is called ever after;
  - `Round.serving`: one made for the graph was initialized before anything else and
    after that only asked, until it was uninitialized (over a whole run,
    `Turns.outcome`).
-/

import MediaGraph.Proofs.Session.Change

namespace MediaGraph

/-! ## The calls of one instance -/

namespace Call

/-- A call made while links are negotiated or configured. -/
def asks : Call → Bool
  | query .. | configOutput .. | configInput .. => true
  | _ => false

/-- Neither the first call nor the last. -/
def inner : Call → Bool
  | opened _ | uninit => false
  | _ => true

theorem inner_of_asks {c : Call} (h : c.asks = true) : c.inner = true := by
  cases c <;> first | rfl | cases h

/-- The calls of an instance that was initialized before anything else, and after that only asked. -/
def Served (calls : List Call) : Prop :=
  ∃ asked args context type, calls = asked ++ [.init args context .done, .opened type] ∧ ∀ c ∈ asked, c.asks = true

theorem Served.ask {calls : List Call} (h : Served calls) {c : Call} (hc : c.asks = true) : Served (c :: calls) := by
  obtain ⟨asked, args, context, type, rfl, hasked⟩ := h
  exact ⟨c :: asked, args, context, type, rfl, List.forall_mem_cons.mpr ⟨hc, hasked⟩⟩

end Call

namespace History

variable {h : History} {i : Nat} {calls : List Call} {c : Call}

/-- The calls made to one instance, newest first. -/
def callsOf (h : History) (serial : Nat) : List Call := (h.filter (·.serial = serial)).map (·.call)

theorem callsOf_cons (serial : Nat) (c : Call) (h : History) (i : Nat) :
    callsOf (⟨serial, c⟩ :: h) i = if serial = i then c :: h.callsOf i else h.callsOf i := by
  unfold callsOf
  by_cases e : serial = i <;> simp [e]

theorem callsOf_cons_self (i : Nat) (c : Call) (h : History) : callsOf (⟨i, c⟩ :: h) i = c :: h.callsOf i := by
  rw [callsOf_cons, if_pos rfl]

theorem callsOf_cons_of_ne {serial : Nat} (hs : serial ≠ i) (c : Call) (h : History) :
    callsOf (⟨serial, c⟩ :: h) i = h.callsOf i := by
  rw [callsOf_cons, if_neg hs]

theorem callsOf_eq_nil (hi : ∀ r ∈ h, r.serial ≠ i) : h.callsOf i = [] := by
  unfold callsOf
  rw [List.map_eq_nil_iff, List.filter_eq_nil_iff]
  exact fun r hr => by simpa using hi r hr

/-- The last calls made to instances, each once. -/
theorem callsOf_uninit {serials : List Nat} (hn : serials.Nodup) (h : History) (i : Nat) :
    callsOf (serials.map (⟨·, .uninit⟩) ++ h) i = if i ∈ serials then .uninit :: h.callsOf i else h.callsOf i := by
  induction serials with
  | nil => rfl
  | cons a serials ih =>
    obtain ⟨ha, hn⟩ := List.nodup_cons.mp hn
    rw [List.map_cons, List.cons_append, callsOf_cons, ih hn]
    by_cases e : a = i
    · subst e
      simp [ha]
    · simp [e, Ne.symm e]

/-- The instance was opened, once and first of all, and not yet uninitialized. -/
def InService (h : History) (i : Nat) : Prop :=
  ∃ calls type, h.callsOf i = calls ++ [.opened type] ∧ ∀ c ∈ calls, c.inner = true

/-- The instance was opened, once and first of all, and uninitialized, once and last of all. -/
def Ended (h : History) (i : Nat) : Prop :=
  ∃ calls type, h.callsOf i = .uninit :: (calls ++ [.opened type]) ∧ ∀ c ∈ calls, c.inner = true

/-- The instance refused to initialize, and that was that. -/
def Refused (h : History) (i : Nat) : Prop :=
  ∃ type args context report, h.callsOf i = [.uninit, .init args context (.refused report), .opened type]

theorem InService.congr {h' : History} (hs : h.InService i) (e : h'.callsOf i = h.callsOf i) : h'.InService i := by
  unfold InService
  rw [e]
  exact hs

theorem Ended.congr {h' : History} (he : h.Ended i) (e : h'.callsOf i = h.callsOf i) : h'.Ended i := by
  unfold Ended
  rw [e]
  exact he

theorem InService.called {h' : History} (hs : h.InService i) (e : h'.callsOf i = c :: h.callsOf i)
    (hc : c.inner = true) : h'.InService i := by
  obtain ⟨calls, type, e', hcalls⟩ := hs
  exact ⟨c :: calls, type, by rw [e, e']; rfl, List.forall_mem_cons.mpr ⟨hc, hcalls⟩⟩

theorem Refused.congr {h' : History} (hr : h.Refused i) (e : h'.callsOf i = h.callsOf i) : h'.Refused i := by
  unfold Refused
  rw [e]
  exact hr

theorem InService.uninit {h' : History} (hs : h.InService i) (e : h'.callsOf i = .uninit :: h.callsOf i) :
    h'.Ended i := by
  obtain ⟨calls, type, e', hcalls⟩ := hs
  exact ⟨calls, type, by rw [e, e'], hcalls⟩

end History

/-! ## The roster -/

structure Roster where
  history : History
  /-- The serial of the next instance. -/
  opened : Nat
  inGraph : List Nat
  loose : List Nat

inductive Turn (r : Roster) : Roster → Prop
  | make (type : String) (args : Option String) (context : Option Context) :
      Turn r { r with
        history := ⟨r.opened, .init args context .done⟩ :: ⟨r.opened, .opened type⟩ :: r.history
        opened := r.opened + 1
        inGraph := r.inGraph ++ [r.opened] }
  | fail (type : String) (args : Option String) (context : Option Context) (report : Report) :
      Turn r { r with
        history := ⟨r.opened, .uninit⟩ :: ⟨r.opened, .init args context (.refused report)⟩ ::
          ⟨r.opened, .opened type⟩ :: r.history
        opened := r.opened + 1 }
  | ask {i : Nat} {c : Call} : i ∈ r.inGraph → c.asks = true → Turn r { r with history := ⟨i, c⟩ :: r.history }
  | handle {i : Nat} {c : Call} : i ∈ r.loose → c.inner = true → Turn r { r with history := ⟨i, c⟩ :: r.history }
  | discard {i : Nat} {loose : List Nat} : r.loose.Perm (i :: loose) →
      Turn r { r with history := ⟨i, .uninit⟩ :: r.history, loose }
  | place {i : Nat} {loose : List Nat} : r.loose.Perm (i :: loose) →
      Turn r { r with inGraph := r.inGraph ++ [i], loose }
  | free : Turn r { r with history := r.inGraph.map (⟨·, .uninit⟩) ++ r.history, inGraph := [] }

abbrev Turns : Roster → Roster → Prop := Relation.ReflTransGen Turn

/-- A turn, or a node opened by the caller. -/
inductive Round (r : Roster) : Roster → Prop
  | turn {r' : Roster} : Turn r r' → Round r r'
  | openNode (type : String) :
      Round r { r with
        history := ⟨r.opened, .opened type⟩ :: r.history
        opened := r.opened + 1
        loose := r.loose ++ [r.opened] }

abbrev Rounds : Roster → Roster → Prop := Relation.ReflTransGen Round

namespace Roster

variable {r r' : Roster} {i : Nat}

/-- The instances that are still there. -/
def present (r : Roster) : List Nat := r.inGraph ++ r.loose

theorem mem_present : i ∈ r.present ↔ i ∈ r.inGraph ∨ i ∈ r.loose := List.mem_append

/-- The calls made to an instance opened are what they should be. -/
def Lawful (r : Roster) (i : Nat) : Prop :=
  (i ∈ r.present → r.history.InService i) ∧ (i ∉ r.present → r.history.Ended i)

structure Sound (r : Roster) : Prop where
  nodup : r.present.Nodup
  used : ∀ i ∈ r.present, i < r.opened
  past : ∀ c ∈ r.history, c.serial < r.opened
  lawful : ∀ i < r.opened, r.Lawful i

theorem sound_start : Sound ⟨[], 0, [], []⟩ where
  nodup := List.nodup_nil
  used _ hi := absurd hi List.not_mem_nil
  past _ hc := absurd hc List.not_mem_nil
  lawful _ hi := absurd hi (Nat.not_lt_zero _)

theorem Sound.fresh (h : r.Sound) : r.history.callsOf r.opened = [] :=
  History.callsOf_eq_nil fun c hc => Nat.ne_of_lt (h.past c hc)

theorem Sound.absent (h : r.Sound) (hi : r.opened ≤ i) : i ∉ r.present :=
  fun hmem => Nat.not_lt_of_le hi (h.used i hmem)

/-- What a round comes to for an instance opened before. -/
inductive Fate (r r' : Roster) (i : Nat) : Prop
  | kept : r'.history.callsOf i = r.history.callsOf i → (i ∈ r'.present ↔ i ∈ r.present) →
      (i ∈ r'.loose → i ∈ r.loose) → Fate r r' i
  | called {c : Call} : r'.history.callsOf i = c :: r.history.callsOf i → i ∈ r.present → i ∈ r'.present →
      (i ∈ r'.loose → i ∈ r.loose) → c.inner = true → (i ∉ r.loose → c.asks = true) → Fate r r' i
  | ended : r'.history.callsOf i = .uninit :: r.history.callsOf i → i ∈ r.present → i ∉ r'.present → Fate r r' i

/-- What becomes of an instance in the round it is opened in. -/
inductive Debut (r : Roster) (i : Nat) : Prop
  | added (type : String) (args : Option String) (context : Option Context) : i ∈ r.inGraph →
      r.history.callsOf i = [.init args context .done, .opened type] → Debut r i
  | refused : i ∉ r.present → r.history.Refused i → Debut r i
  | kept (type : String) : i ∈ r.loose → r.history.callsOf i = [.opened type] → Debut r i

/-- Made for the graph, and still in it or gone. -/
inductive Serving (r : Roster) (i : Nat) : Prop
  | on : i ∈ r.inGraph → i ∉ r.loose → Call.Served (r.history.callsOf i) → Serving r i
  | off {calls : List Call} : i ∉ r.present → r.history.callsOf i = .uninit :: calls → Call.Served calls → Serving r i

end Roster

open Roster

section Rounds

variable {r r' : Roster} {i : Nat}

theorem Turn.fate (ht : Turn r r') (h : r.Sound) (hi : i < r.opened) : Fate r r' i := by
  have hne : r.opened ≠ i := Nat.ne_of_gt hi
  cases ht with
  | make type args context =>
    refine .kept ?_ ?_ id
    · rw [History.callsOf_cons_of_ne hne, History.callsOf_cons_of_ne hne]
    · simp [mem_present, Ne.symm hne]
  | fail type args context report =>
    refine .kept ?_ Iff.rfl id
    rw [History.callsOf_cons_of_ne hne, History.callsOf_cons_of_ne hne, History.callsOf_cons_of_ne hne]
  | @ask j c hj hc =>
    by_cases e : j = i
    · subst e
      have hmem := mem_present.mpr (.inl hj)
      exact .called (History.callsOf_cons_self ..) hmem hmem id (Call.inner_of_asks hc) fun _ => hc
    · exact .kept (History.callsOf_cons_of_ne e ..) Iff.rfl id
  | @handle j c hj hc =>
    by_cases e : j = i
    · subst e
      have hmem := mem_present.mpr (.inr hj)
      exact .called (History.callsOf_cons_self ..) hmem hmem id hc fun hn => absurd hj hn
    · exact .kept (History.callsOf_cons_of_ne e ..) Iff.rfl id
  | @discard j loose hp =>
    by_cases e : j = i
    · subst e
      -- no instance is outside twice, so this one is outside no more
      have hperm : r.present.Perm (j :: (r.inGraph ++ loose)) := (hp.append_left _).trans List.perm_middle
      obtain ⟨hj, -⟩ := List.nodup_cons.mp (hperm.nodup_iff.mp h.nodup)
      exact .ended (History.callsOf_cons_self ..) (hperm.mem_iff.mpr List.mem_cons_self) hj
    · refine .kept (History.callsOf_cons_of_ne e ..) ?_ fun hl => hp.mem_iff.mpr (List.mem_cons_of_mem j hl)
      simp [mem_present, hp.mem_iff, Ne.symm e]
  | @place j loose hp =>
    refine .kept rfl ?_ fun hl => hp.mem_iff.mpr (List.mem_cons_of_mem j hl)
    simp [mem_present, hp.mem_iff, or_assoc]
  | free =>
    have hn := (List.nodup_append.mp h.nodup).1
    have hcalls := History.callsOf_uninit hn r.history i
    by_cases hg : i ∈ r.inGraph
    · rw [if_pos hg] at hcalls
      refine .ended hcalls (mem_present.mpr (.inl hg)) fun hmem => ?_
      rcases mem_present.mp hmem with hmem | hmem
      · cases hmem
      · exact (List.nodup_append.mp h.nodup).2.2 i hg i hmem rfl
    · rw [if_neg hg] at hcalls
      exact .kept hcalls (by simp [mem_present, hg]) id

theorem Round.fate (ht : Round r r') (h : r.Sound) (hi : i < r.opened) : Fate r r' i := by
  cases ht with
  | turn ht => exact ht.fate h hi
  | openNode type =>
    have hne : r.opened ≠ i := Nat.ne_of_gt hi
    have hloose : i ∈ r.loose ++ [r.opened] ↔ i ∈ r.loose := by simp [Ne.symm hne]
    exact .kept (History.callsOf_cons_of_ne hne ..) (by simp [mem_present, Ne.symm hne]) hloose.mp

theorem Round.debut (ht : Round r r') (h : r.Sound) (hi : r.opened ≤ i) (hi' : i < r'.opened) : Debut r' i := by
  have new : i < r.opened + 1 → i = r.opened := by omega
  have absent : r.opened ∉ r.present := h.absent (Nat.le_refl _)
  cases ht with
  | openNode type =>
    obtain rfl := new hi'
    refine .kept type (List.mem_append_right _ List.mem_cons_self) ?_
    rw [History.callsOf_cons_self, h.fresh]
  | turn ht =>
    cases ht with
    | make type args context =>
      obtain rfl := new hi'
      refine .added type args context (List.mem_append_right _ List.mem_cons_self) ?_
      rw [History.callsOf_cons_self, History.callsOf_cons_self, h.fresh]
    | fail type args context report =>
      obtain rfl := new hi'
      refine .refused absent ⟨type, args, context, report, ?_⟩
      rw [History.callsOf_cons_self, History.callsOf_cons_self, History.callsOf_cons_self, h.fresh]
    | ask | handle | discard | place | free => exact absurd hi' (Nat.not_lt_of_le hi)

/-- Only who opens a node keeps a new instance outside. -/
theorem Turn.loose (ht : Turn r r') : r'.loose ⊆ r.loose := by
  cases ht with
  | discard hp | place hp => exact fun i hi => hp.mem_iff.mpr (List.mem_cons_of_mem _ hi)
  | make | fail | ask | handle | free => exact fun _ hi => hi

/-- Either one more instance is there, with the next serial, or none that was not there before. -/
theorem Round.present (ht : Round r r') :
    (r'.opened = r.opened + 1 ∧ r'.present.Perm (r.opened :: r.present)) ∨
      r.opened ≤ r'.opened ∧ r'.present.Subperm r.present := by
  cases ht with
  | openNode type => exact .inl ⟨rfl, by rw [Roster.present, ← List.append_assoc]; exact List.perm_append_singleton ..⟩
  | turn ht =>
    cases ht with
    | make type args context =>
      refine .inl ⟨rfl, ?_⟩
      rw [Roster.present, List.append_assoc]
      exact List.perm_middle
    | fail => exact .inr ⟨Nat.le_succ _, List.Subperm.refl _⟩
    | ask | handle => exact .inr ⟨Nat.le_refl _, List.Subperm.refl _⟩
    | @discard i loose hp =>
      refine .inr ⟨Nat.le_refl _, (List.Sublist.subperm ?_).trans (hp.symm.append_left _).subperm⟩
      exact (List.sublist_cons_self i loose).append_left _
    | @place i loose hp =>
      refine .inr ⟨Nat.le_refl _, List.Perm.subperm ?_⟩
      rw [Roster.present, List.append_assoc]
      exact hp.symm.append_left _
    | free => exact .inr ⟨Nat.le_refl _, (List.sublist_append_right _ _).subperm⟩

/-- No two instances have one serial, and none has the next one. -/
theorem Round.numbered (ht : Round r r') (h : r.Sound) : r'.present.Nodup ∧ ∀ i ∈ r'.present, i < r'.opened := by
  rcases ht.present with ⟨ho, hp⟩ | ⟨ho, hp⟩
  · rw [hp.nodup_iff, ho]
    refine ⟨List.nodup_cons.mpr ⟨h.absent (Nat.le_refl _), h.nodup⟩, fun i hi => ?_⟩
    rcases List.mem_cons.mp (hp.mem_iff.mp hi) with rfl | hi
    · omega
    · have := h.used i hi
      omega
  · obtain ⟨l, hperm, hsub⟩ := id hp
    refine ⟨hperm.nodup_iff.mp (h.nodup.sublist hsub), fun i hi => ?_⟩
    have := h.used i (hp.subset hi)
    omega

theorem Round.past (ht : Round r r') (h : r.Sound) : ∀ c ∈ r'.history, c.serial < r'.opened := by
  have old : ∀ c ∈ r.history, c.serial < r.opened + 1 := fun c hc => Nat.lt_succ_of_lt (h.past c hc)
  have used : ∀ {i}, i ∈ r.inGraph ∨ i ∈ r.loose → i < r.opened := fun hi => h.used _ (mem_present.mpr hi)
  cases ht with
  | openNode type => exact List.forall_mem_cons.mpr ⟨Nat.lt_succ_self _, old⟩
  | turn ht =>
    cases ht with
    | make =>
      exact List.forall_mem_cons.mpr ⟨Nat.lt_succ_self _, List.forall_mem_cons.mpr ⟨Nat.lt_succ_self _, old⟩⟩
    | fail =>
      exact List.forall_mem_cons.mpr ⟨Nat.lt_succ_self _, List.forall_mem_cons.mpr ⟨Nat.lt_succ_self _,
        List.forall_mem_cons.mpr ⟨Nat.lt_succ_self _, old⟩⟩⟩
    | ask hi => exact List.forall_mem_cons.mpr ⟨used (.inl hi), h.past⟩
    | handle hi => exact List.forall_mem_cons.mpr ⟨used (.inr hi), h.past⟩
    | discard hp =>
      exact List.forall_mem_cons.mpr ⟨used (.inr (hp.mem_iff.mpr List.mem_cons_self)), h.past⟩
    | place => exact h.past
    | free =>
      refine List.forall_mem_append.mpr ⟨fun c hc => ?_, h.past⟩
      obtain ⟨i, hi, rfl⟩ := List.mem_map.mp hc
      exact used (.inl hi)

theorem Roster.Debut.lawful (h : Debut r i) : r.Lawful i := by
  cases h with
  | added type args context hi hcalls =>
    refine ⟨fun _ => ⟨[.init args context .done], type, hcalls, fun c hc => ?_⟩, fun hn => ?_⟩
    · rw [List.mem_singleton.mp hc]
      rfl
    · exact absurd (mem_present.mpr (.inl hi)) hn
  | refused hi hcalls =>
    obtain ⟨type, args, context, report, hcalls⟩ := hcalls
    refine ⟨fun hp => absurd hp hi, fun _ => ⟨[.init args context (.refused report)], type, hcalls, fun c hc => ?_⟩⟩
    rw [List.mem_singleton.mp hc]
    rfl
  | kept type hi hcalls =>
    exact ⟨fun _ => ⟨[], type, hcalls, fun c hc => absurd hc List.not_mem_nil⟩,
      fun hn => absurd (mem_present.mpr (.inr hi)) hn⟩

theorem Roster.Fate.lawful (hf : Fate r r' i) (h : r.Lawful i) : r'.Lawful i := by
  cases hf with
  | kept hcalls hmem _ =>
    exact ⟨fun hp => (h.1 (hmem.mp hp)).congr hcalls, fun hn => (h.2 (mt hmem.mpr hn)).congr hcalls⟩
  | called hcalls hp hp' _ hc _ => exact ⟨fun _ => (h.1 hp).called hcalls hc, fun hn => absurd hp' hn⟩
  | ended hcalls hp hn => exact ⟨fun hp' => absurd hp' hn, fun _ => (h.1 hp).uninit hcalls⟩

/-- Instances come and go as the roster says, and the calls made to each are as they should be. -/
theorem Round.sound (ht : Round r r') (h : r.Sound) : r'.Sound := by
  obtain ⟨hn, hu⟩ := ht.numbered h
  refine ⟨hn, hu, ht.past h, fun i hi => ?_⟩
  rcases Nat.lt_or_ge i r.opened with hlt | hge
  · exact (ht.fate h hlt).lawful (h.lawful i hlt)
  · exact (ht.debut h hge hi).lawful

theorem Round.opened_le (ht : Round r r') : r.opened ≤ r'.opened := by
  rcases ht.present with ⟨ho, -⟩ | ⟨ho, -⟩
  · omega
  · exact ho

/-- An instance that is gone stays gone, and nothing more is called on it. -/
theorem Round.retired (ht : Round r r') (h : r.Sound) (hi : i < r.opened) (hn : i ∉ r.present) :
    i ∉ r'.present ∧ r'.history.callsOf i = r.history.callsOf i := by
  cases ht.fate h hi with
  | kept hcalls hmem _ => exact ⟨mt hmem.mp hn, hcalls⟩
  | called _ hp | ended _ hp => exact absurd hp hn

theorem Round.serving (ht : Round r r') (h : r.Sound) (hi : i < r.opened) (hs : Serving r i) : Serving r' i := by
  cases hs with
  | off hn hcalls hserved =>
    obtain ⟨hn', e⟩ := ht.retired h hi hn
    exact .off hn' (e.trans hcalls) hserved
  | on hg hl hserved =>
    have hp : i ∈ r.present := mem_present.mpr (.inl hg)
    have inGraph : i ∈ r'.present → i ∉ r'.loose → i ∈ r'.inGraph := fun hp' hl' => (mem_present.mp hp').resolve_right hl'
    cases ht.fate h hi with
    | kept hcalls hmem hloose =>
      have hl' : i ∉ r'.loose := mt hloose hl
      exact .on (inGraph (hmem.mpr hp) hl') hl' (hcalls ▸ hserved)
    | called hcalls _ hp' hloose _ hasks =>
      have hl' : i ∉ r'.loose := mt hloose hl
      exact .on (inGraph hp' hl') hl' (hcalls ▸ hserved.ask (hasks hl))
    | ended hcalls _ hn => exact .off hn hcalls hserved

/-! ### Many rounds -/

theorem Turns.rounds (hr : Turns r r') : Rounds r r' := Relation.ReflTransGen.mono (fun _ _ => .turn) _ _ hr

theorem Rounds.sound (hr : Rounds r r') (h : r.Sound) : r'.Sound := by
  induction hr with
  | refl => exact h
  | tail _ ht ih => exact ht.sound ih

theorem Rounds.opened_le (hr : Rounds r r') : r.opened ≤ r'.opened := by
  induction hr with
  | refl => exact Nat.le_refl _
  | tail _ ht ih => exact Nat.le_trans ih ht.opened_le

theorem Rounds.retired (hr : Rounds r r') (h : r.Sound) (hi : i < r.opened) (hn : i ∉ r.present) :
    i ∉ r'.present ∧ r'.history.callsOf i = r.history.callsOf i := by
  induction hr with
  | refl => exact ⟨hn, rfl⟩
  | tail hr ht ih =>
    have hle := Rounds.opened_le hr
    obtain ⟨hn', e⟩ := ht.retired (Rounds.sound hr h) (by omega) ih.1
    exact ⟨hn', e.trans ih.2⟩

theorem Rounds.serving (hr : Rounds r r') (h : r.Sound) (hi : i < r.opened) (hs : Serving r i) : Serving r' i := by
  induction hr with
  | refl => exact hs
  | tail hr ht ih =>
    have hle := Rounds.opened_le hr
    exact ht.serving (Rounds.sound hr h) (by omega) ih

/-- Whoever was opened over some turns serves the graph, or refused to initialize. -/
theorem Turns.opened (hr : Turns r r') (h : r.Sound) (hi : r.opened ≤ i) (hi' : i < r'.opened) :
    Serving r' i ∨ i ∉ r'.present ∧ r'.history.Refused i := by
  induction hr with
  | refl => exact absurd hi' (Nat.not_lt_of_le hi)
  | @tail r₁ r₂ hr ht ih =>
    have h₁ := (Turns.rounds hr).sound h
    rcases Nat.lt_or_ge i r₁.opened with hlt | hge
    · rcases ih hlt with hs | ⟨hn, hrefused⟩
      · exact .inl ((Round.turn ht).serving h₁ hlt hs)
      · obtain ⟨hn', e⟩ := (Round.turn ht).retired h₁ hlt hn
        exact .inr ⟨hn', hrefused.congr e⟩
    · have hl : i ∉ r₂.loose := fun hl => h₁.absent hge (mem_present.mpr (.inr (ht.loose hl)))
      cases (Round.turn ht).debut h₁ hge hi' with
      | added type args context hg hcalls =>
        exact .inl (.on hg hl ⟨[], args, context, type, hcalls, fun c hc => absurd hc List.not_mem_nil⟩)
      | refused hn hrefused => exact .inr ⟨hn, hrefused⟩
      | kept type hkept => exact absurd hkept hl

/-- And once it is in the graph no more, all that was ever called on it is this. -/
theorem Turns.outcome {r₁ : Roster} (hr : Turns r r₁) (later : Rounds r₁ r') (h : r.Sound) (hi : r.opened ≤ i)
    (hi' : i < r₁.opened) (hn : i ∉ r'.inGraph) :
    (r'.history.Refused i ∧ r₁.history.callsOf i = r'.history.callsOf i) ∨
      ∃ calls, r'.history.callsOf i = .uninit :: calls ∧ Call.Served calls := by
  have h₁ := hr.rounds.sound h
  rcases hr.opened h hi hi' with hs | ⟨hn', hrefused⟩
  · cases later.serving h₁ hi' hs with
    | on hg => exact absurd hg hn
    | off _ hcalls hserved => exact .inr ⟨_, hcalls, hserved⟩
  · obtain ⟨-, e⟩ := later.retired h₁ hi' hn'
    exact .inl ⟨hrefused.congr e, e.symm⟩

end Rounds

end MediaGraph
