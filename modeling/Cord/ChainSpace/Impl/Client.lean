import Cord.ChainSpace.Impl.Calls

/-!
This module contains pallets that are clients of the chain space pallet: they keep storage of their
own next to it, and a space is charged for their calls.
-/

open Frame Identifier

namespace ChainSpace

structure Client (T : Config) (σ : Type) where
  chainSpace : State T
  pallet : σ

namespace Client

variable {T : Config} {σ ε κ α : Type}

def getPallet : DispatchM (Client T σ) ε σ := do
  return (← get).pallet

def modifyPallet (f : σ → σ) : DispatchM (Client T σ) ε Unit :=
  modify fun s => { s with pallet := f s.pallet }

section Wrap

variable (wrap : Error → ε)

def runChainSpace (x : CallM T α) : DispatchM (Client T σ) ε α :=
  zoom Client.chainSpace (fun t s => { s with chainSpace := t }) wrap x

def ensureAuthorizationOrigin (authorizationId : T.Ss58Identifier) (delegate : T.SpaceCreatorId)
    : DispatchM (Client T σ) ε T.Ss58Identifier :=
  runChainSpace wrap (ChainSpace.ensureAuthorizationOrigin authorizationId delegate)

def updateActivity (txId : T.Ss58Identifier) (txType : IdentifierTypeOf) (txAction : CallTypeOf)
    : DispatchM (Client T σ) ε Unit :=
  runChainSpace wrap (ChainSpace.updateActivity txId txType txAction)

end Wrap

def blockNumber : DispatchM (Client T σ) ε UInt32 := do
  return (← get).chainSpace.timepoint.height

def atTime (s : Client T σ) (timepoint : Timepoint) : Client T σ :=
  { s with chainSpace.timepoint := timepoint }

inductive Extrinsic (T : Config) (κ : Type) where
  | chainSpace (ext : ChainSpace.Extrinsic T)
  | pallet (origin : T.Origin) (timepoint : Timepoint) (call : κ)

/--
The calls of the pallet, interleaved with those of the chain space pallet in any order.
-/
def machine (wrap : Error → ε) (dispatch : T.Origin → κ → DispatchM (Client T σ) ε Unit)
    : Machine (Client T σ) ε (Extrinsic T κ) where
  dispatch
    | .chainSpace ext => runChainSpace wrap ext.dispatch
    | .pallet origin timepoint call => do
      modify fun s => s.atTime timepoint
      dispatch origin call

def Extrinsic.Meets (P : Client T σ → T.Origin → κ → Prop) (s : Client T σ) (ext : Extrinsic T κ)
    : Prop :=
  match ext with
  | .chainSpace _ => True
  | .pallet origin timepoint call => P (s.atTime timepoint) origin call

instance {P : Client T σ → T.Origin → κ → Prop} [∀ s origin call, Decidable (P s origin call)]
    (s : Client T σ) : (ext : Extrinsic T κ) → Decidable (ext.Meets P s)
  | .chainSpace _ => inferInstanceAs (Decidable True)
  | .pallet origin timepoint call =>
    inferInstanceAs (Decidable (P (s.atTime timepoint) origin call))

end Client

end ChainSpace
