import Cord.CollectiveMembership.Impl
import Mathlib.Data.Multiset.UnionInter

/-!
This module contains a receiver of the signals of the membership pallet, the one its tests listen with.
It keeps its own copy of the members, and it only hears of changes: each one is checked against the copy
before it is applied, a change that does not fit is a panic.
-/

open Frame

namespace CollectiveMembership

/--
What turns two sorted vectors of members into the ones that come in and the ones that go out. It is
provided by the framework.
-/
structure MembersDiff (T : Config) where
  computeMembersDiffSorted
    : (new old : List T.AccountId) → List T.AccountId × List T.AccountId
  balanced : ∀ new old, new.Pairwise (· ≤ ·) → old.Pairwise (· ≤ ·) →
    (old ++ (computeMembersDiffSorted new old).1).Perm (new ++ (computeMembersDiffSorted new old).2)

def MembersDiff.plain (T : Config) : MembersDiff T where
  computeMembersDiffSorted new old := (new.diff old, old.diff new)
  balanced := by
    intro new old _ _
    rw [← Multiset.coe_eq_coe, ← Multiset.coe_add, ← Multiset.coe_add, ← Multiset.coe_sub,
      ← Multiset.coe_sub, Multiset.add_comm, Multiset.add_comm (new : Multiset T.AccountId), ← Multiset.union_def,
      ← Multiset.union_def, Multiset.union_comm]

structure Receiver (T : Config) where
  members : List T.AccountId
  prime : Option T.AccountId
  deriving DecidableEq

variable {T : Config}

namespace Receiver

def new : Receiver T where
  members := []
  prime := none

def changeMembersSorted (self : Receiver T) (incoming outgoing new : List T.AccountId)
    : Option (Receiver T) :=
  let oldPlusIncoming := (self.members ++ incoming).insertionSort (· ≤ ·)
  let newPlusOutgoing := (new ++ outgoing).insertionSort (· ≤ ·)
  if oldPlusIncoming = newPlusOutgoing then
    some { members := new, prime := none }
  else
    none

def setPrime (self : Receiver T) (who : Option T.AccountId) : Receiver T :=
  { self with prime := who }

def initializeMembers (self : Receiver T) (members : List T.AccountId) : Receiver T :=
  { self with members }

def setMembersSorted (diff : MembersDiff T) (self : Receiver T) (new old : List T.AccountId)
    : Option (Receiver T) :=
  -- The receiver does not say how to do this, so it is told of the difference.
  let (incoming, outgoing) := diff.computeMembersDiffSorted new old
  self.changeMembersSorted incoming outgoing new

def receive (diff : MembersDiff T) (self : Receiver T) : Signal T → Option (Receiver T)
  | .initializeMembers members => some (self.initializeMembers members)
  | .changeMembersSorted incoming outgoing new => self.changeMembersSorted incoming outgoing new
  | .setMembersSorted new old => self.setMembersSorted diff new old
  | .setPrime prime => some (self.setPrime prime)

def replay (diff : MembersDiff T) (self : Receiver T) (signals : List (Signal T))
    : Option (Receiver T) :=
  signals.foldlM (receive diff) self

end Receiver

end CollectiveMembership
