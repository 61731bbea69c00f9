/-
  MediaGraph.Negotiation.Arena — format sets shared between the ends of links.

  Each end of a link holds at most one set, through a handle: the source offers
  it, the destination accepts it. Several ends may hold one set. A set counts its
  holders and is dropped when the last one lets go. `merge` puts the common
  formats of two sets in the place of both, for every end that held either; two
  sets with nothing in common stay as they are.

  Handles are numbered in the order they are handed out, and never used again.
-/

import MediaGraph.Format.Set
import MediaGraph.Link

namespace MediaGraph

inductive Side where
  | offered
  | accepted
  deriving DecidableEq, Repr

/-- The handles of one link. -/
structure Ends where
  offered : Option Nat := none
  accepted : Option Nat := none
  deriving DecidableEq, Repr

namespace Ends

def get (e : Ends) : Side → Option Nat
  | .offered => e.offered
  | .accepted => e.accepted

def set (e : Ends) (side : Side) (id : Option Nat) : Ends :=
  match side with
  | .offered => { e with offered := id }
  | .accepted => { e with accepted := id }

/-- Every handle to one set becomes a handle to another. -/
def redirect (e : Ends) (old new : Nat) : Ends :=
  let swap (h : Option Nat) := if h = some old then some new else h
  ⟨swap e.offered, swap e.accepted⟩

/-- The set that stands for the link: what is offered, else what is accepted. -/
def current (e : Ends) : Option Nat := e.offered <|> e.accepted

end Ends

/-- A set and the number of ends that hold it. -/
structure Shared where
  set : FormatSet
  refs : Nat
  deriving DecidableEq, Repr

structure Arena where
  slots : List (Option Shared) := []
  links : List Ends := []
  deriving DecidableEq, Repr

namespace Arena

/-! ## Views -/

def slot? (a : Arena) (id : Nat) : Option Shared := a.slots[id]? >>= fun slot => slot

def get? (a : Arena) (id : Nat) : Option FormatSet := (a.slot? id).map (·.set)

/-- The number of ends that hold a set, 0 once it is dropped. -/
def refs (a : Arena) (id : Nat) : Nat := (a.slot? id).elim 0 (·.refs)

def liveSets (a : Arena) : Nat := a.slots.countP (·.isSome)

/-- The number of sets that still leave a choice. -/
def loose (a : Arena) : Nat := a.slots.countP fun slot => slot.any (1 < ·.set.size)

def link (a : Arena) (l : Nat) : Ends := a.links[l]?.getD {}

/-- The set negotiated so far for a link. -/
def linkSet? (a : Arena) (l : Nat) : Option FormatSet := (a.link l).current >>= a.get?

theorem lt_of_slot?_eq_some {a : Arena} {id : Nat} {s : Shared} (h : a.slot? id = some s) : id < a.slots.length := by
  rw [slot?] at h
  cases hi : a.slots[id]? with
  | none => rw [hi] at h; cases h
  | some x => exact (List.getElem?_eq_some_iff.mp hi).1

/-! ## Holding and letting go -/

def setSlot (a : Arena) (id : Nat) (s : Option Shared) : Arena := { a with slots := a.slots.set id s }

/-- Write the handles of a link, which may be one not seen before. -/
def setLink (a : Arena) (l : Nat) (e : Ends) : Arena :=
  { a with links := (a.links ++ List.replicate (l + 1 - a.links.length) ({} : Ends)).set l e }

theorem slot?_setSlot (a : Arena) (i j : Nat) (s : Option Shared) :
    (a.setSlot i s).slot? j = if i = j ∧ i < a.slots.length then s else a.slot? j := by
  simp only [slot?, setSlot, List.getElem?_set]
  by_cases h : i = j
  · by_cases hi : j < a.slots.length <;> simp [h, hi]
  · simp [h]

theorem link_setLink (a : Arena) (l m : Nat) (e : Ends) :
    (a.setLink l e).link m = if l = m then e else a.link m := by
  simp only [link, setLink, List.getElem?_set, List.length_append, List.length_replicate, List.getElem?_append]
  by_cases h : l = m
  · have : m < a.links.length + (m + 1 - a.links.length) := by omega
    simp [h, this]
  · by_cases hm : m < a.links.length
    · simp [h, hm]
    · simp only [h, hm, if_false, List.getElem?_replicate]
      split <;> simp [List.getElem?_eq_none (Nat.le_of_not_lt hm)]

@[simp]
theorem link_setSlot (a : Arena) (i : Nat) (s : Option Shared) (l : Nat) :
    (a.setSlot i s).link l = a.link l := rfl

@[simp]
theorem slot?_setLink (a : Arena) (l : Nat) (e : Ends) (i : Nat) :
    (a.setLink l e).slot? i = a.slot? i := rfl

/-- One end more holds the set, if it is live. -/
def retain (a : Arena) (id : Nat) : Arena :=
  match a.slot? id with
  | some s => a.setSlot id (some { s with refs := s.refs + 1 })
  | none => a

/-- One end less holds the set; without an end it is dropped. -/
def drop (a : Arena) (id : Nat) : Arena :=
  match a.slot? id with
  | some s => a.setSlot id (if s.refs ≤ 1 then none else some { s with refs := s.refs - 1 })
  | none => a

def drop? (a : Arena) : Option Nat → Arena
  | some id => a.drop id
  | none => a

/-- Let an end hold a set in the place of what it held. -/
def bind (a : Arena) (l : Nat) (side : Side) (id : Nat) : Arena :=
  ((a.retain id).setLink l ((a.link l).set side (some id))).drop? ((a.link l).get side)

/-- Put in a new set that nobody holds yet. -/
def push (a : Arena) (s : FormatSet) : Arena := { a with slots := a.slots ++ [some ⟨s, 0⟩] }

/-- Let every end of a list hold one new set. Without ends there is no set. -/
def share (a : Arena) (s : FormatSet) (ends : List (Nat × Side)) : Option Nat × Arena :=
  let id := a.slots.length
  if ends.isEmpty then (none, a) else (some id, ends.foldl (fun b e => b.bind e.1 e.2 id) (a.push s))

/-- Let both ends of a link go. -/
def release (a : Arena) (l : Nat) : Arena :=
  ((a.setLink l {}).drop? (a.link l).offered).drop? (a.link l).accepted

/-- Move what one link accepts to another link. -/
def moveAccepted (a : Arena) (src dst : Nat) : Arena :=
  match (a.link src).accepted with
  | none => a
  | some id =>
    let b := a.setLink src { a.link src with accepted := none }
    (b.setLink dst { b.link dst with accepted := some id }).drop? (b.link dst).accepted

/-! ## Narrowing -/

/-- Leave the common formats of two sets, in the order of the first, for every end that held either.
The first handle stands for the result. -/
def merge (a : Arena) (i j : Nat) : Option Arena :=
  if i = j then (a.slot? i).map fun _ => a
  else
    match a.slot? i, a.slot? j with
    | some s, some t =>
      if (s.set.intersect t.set).isEmpty then none
      else
        some {
          slots := (a.slots.set j none).set i (some ⟨s.set.intersect t.set, s.refs + t.refs⟩)
          links := a.links.map (·.redirect j i) }
    | _, _ => none

/-- Leave one format of a set, for every end that holds it. -/
def pin? (a : Arena) (id : Nat) (f : Format) : Option Arena :=
  match a.slot? id with
  | none => none
  | some s => (s.set.pin? f).map fun set => a.setSlot id (some { s with set })

end Arena

end MediaGraph
