import Mathlib

/-!
# Bounded broadcast

A bus with one bounded queue for every receiver. Publishing never waits: a receiver whose queue is
full, or that is gone, is dropped from the bus. It may still take what waits in its queue, so what
it takes in all is the beginning of what it was offered.
-/

namespace OpenShield

/-- A bus with bounded queues. -/
structure Broadcast (ι α : Type) where
  senders : List ι
  queues : ι → List α
  /-- Whether the receiver is still there. -/
  alive : ι → Bool

namespace Broadcast

variable {ι α : Type} [DecidableEq ι]

def empty : Broadcast ι α := ⟨[], fun _ => [], fun _ => false⟩

def accepts (bus : Broadcast ι α) (capacity : ℕ) (id : ι) : Bool :=
  bus.alive id && decide ((bus.queues id).length < capacity)

def attach (bus : Broadcast ι α) (id : ι) (waiting : List α) : Broadcast ι α :=
  { senders := bus.senders ++ [id]
    queues := fun other => if other = id then waiting else bus.queues other
    alive := fun other => if other = id then true else bus.alive other }

def publish (bus : Broadcast ι α) (capacity : ℕ) (event : α) : Broadcast ι α :=
  { bus with
    senders := bus.senders.filter (bus.accepts capacity)
    queues := fun id =>
      if id ∈ bus.senders ∧ bus.accepts capacity id = true then bus.queues id ++ [event]
      else bus.queues id }

def receive (bus : Broadcast ι α) (id : ι) : Broadcast ι α :=
  { bus with queues := fun other => if other = id then (bus.queues id).tail else bus.queues other }

def detach (bus : Broadcast ι α) (id : ι) : Broadcast ι α :=
  { bus with
    senders := bus.senders.filter (· ≠ id)
    alive := fun other => if other = id then false else bus.alive other }

/-- What a receiver took and what waits for it is the beginning of what it was offered, and all of
it as long as the receiver has not been dropped. -/
structure Delivers (bus : Broadcast ι α) (id : ι) (offered taken : List α) : Prop where
  start : taken ++ bus.queues id <+: offered
  complete : id ∈ bus.senders → taken ++ bus.queues id = offered

variable {bus : Broadcast ι α} {id other : ι} {offered taken : List α}

theorem delivers_attach (bus : Broadcast ι α) (id : ι) (waiting : List α) :
    (bus.attach id waiting).Delivers id waiting [] := by
  have hqueue : (bus.attach id waiting).queues id = waiting := if_pos rfl
  have hall : [] ++ (bus.attach id waiting).queues id = waiting := hqueue
  exact ⟨⟨[], by rw [hall, List.append_nil]⟩, fun _ => hall⟩

theorem Delivers.publish (h : bus.Delivers id offered taken) (capacity : ℕ) (event : α) :
    (bus.publish capacity event).Delivers id (offered ++ [event]) taken := by
  by_cases hsent : id ∈ bus.senders ∧ bus.accepts capacity id = true
  · have hqueue : (bus.publish capacity event).queues id = bus.queues id ++ [event] := if_pos hsent
    have hall : taken ++ (bus.publish capacity event).queues id = offered ++ [event] := by
      rw [hqueue, ← List.append_assoc, h.complete hsent.1]
    exact ⟨hall ▸ List.prefix_rfl, fun _ => hall⟩
  · have hqueue : (bus.publish capacity event).queues id = bus.queues id := if_neg hsent
    refine ⟨?_, fun hmem => absurd (List.mem_filter.mp hmem) hsent⟩
    rw [hqueue]
    exact h.start.trans (List.prefix_append _ _)

theorem Delivers.receive {event : α} {rest : List α} (h : bus.Delivers id offered taken)
    (hqueue : bus.queues id = event :: rest) :
    (bus.receive id).Delivers id offered (taken ++ [event]) := by
  have hsame : taken ++ [event] ++ (bus.receive id).queues id = taken ++ bus.queues id := by
    have htail : (bus.receive id).queues id = (bus.queues id).tail := if_pos rfl
    rw [htail, hqueue, List.tail_cons, List.append_assoc, List.singleton_append]
  exact ⟨hsame ▸ h.start, fun hmem => hsame ▸ h.complete hmem⟩

theorem Delivers.detach (h : bus.Delivers id offered taken) (other : ι) :
    (bus.detach other).Delivers id offered taken :=
  ⟨h.start, fun hmem => h.complete (List.mem_of_mem_filter hmem)⟩

theorem Delivers.attach_other (h : bus.Delivers id offered taken) (hne : id ≠ other)
    (waiting : List α) : (bus.attach other waiting).Delivers id offered taken := by
  have hqueue : (bus.attach other waiting).queues id = bus.queues id := if_neg hne
  refine ⟨hqueue ▸ h.start, fun hmem => hqueue ▸ h.complete ?_⟩
  simpa [Broadcast.attach, hne] using hmem

theorem Delivers.receive_other (h : bus.Delivers id offered taken) (hne : id ≠ other) :
    (bus.receive other).Delivers id offered taken := by
  have hqueue : (bus.receive other).queues id = bus.queues id := if_neg hne
  exact ⟨hqueue ▸ h.start, fun hmem => hqueue ▸ h.complete hmem⟩

end Broadcast

end OpenShield
