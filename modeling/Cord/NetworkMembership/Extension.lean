import Cord.NetworkMembership.Impl

/-!
This module contains the signed extension of the network membership pallet, by which a runtime only
takes transactions of members, and a runtime whose transactions go through it.
-/

open Frame

namespace NetworkMembership

variable {T : Config}

structure ValidTransaction where
  priority : UInt64
  requires : List (List UInt8)
  provides : List (List UInt8)
  longevity : UInt64
  propagate : Bool
  deriving DecidableEq, Repr

inductive InvalidTransaction where
  | call
  deriving DecidableEq, Repr

namespace CheckNetworkMembership

def validate (s : State T) (who : T.AccountId) : Except InvalidTransaction ValidTransaction :=
  if s.members.containsKey who then
    .ok { priority := 0, requires := [], provides := [], longevity := 18446744073709551615, propagate := true }
  else
    .error .call

def preDispatch (s : State T) (who : T.AccountId) : Except InvalidTransaction Unit :=
  (validate s who).map fun _ => ()

end CheckNetworkMembership

/--
A step of the pallet, or a transaction that an account has signed.
-/
inductive Permissioned.Step (T : Config) (κ : Type) where
  | membership (step : NetworkMembership.Step T)
  | transaction (who : T.AccountId) (call : κ)

inductive Permissioned.Error (ε : Type) where
  | invalid (err : InvalidTransaction)
  | membership (err : NetworkMembership.Error)
  | runtime (err : ε)
  deriving DecidableEq, Repr

/--
The pallet next to a runtime `M`, whose calls are those of transactions and come with their signers.
-/
def permissioned {σ ε κ : Type} (M : Machine σ ε (T.AccountId × κ))
    : Machine (State T × σ) (Permissioned.Error ε) (Permissioned.Step T κ) where
  dispatch
    | .membership step =>
      zoom Prod.fst (fun t s => (t, s.2)) .membership step.dispatch
    | .transaction who call => do
      mapErr .invalid (CheckNetworkMembership.preDispatch (← get).1 who)
      zoom Prod.snd (fun t s => (s.1, t)) .runtime (M.dispatch (who, call))

end NetworkMembership
