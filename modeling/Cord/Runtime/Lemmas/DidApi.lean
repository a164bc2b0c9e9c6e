import Cord.Did.Lemmas.Writes
import Cord.DidName.Lemmas.Decoded
import Cord.DidName.Lemmas.Grammar
import Cord.Runtime.Impl.DidApi

/-!
This module contains that the two ways to look up a DID agree: what is found under a name is what is found
under the identifier of the DID that has the name, whatever DIDs and names were created and taken back.
-/

open Frame

namespace Runtime
namespace NameConfig

variable {R : NameConfig} {s : Did.State R.toDid}

/--
What the two lookups rely on: names and owners are inverse to each other, and every name that has an owner is
read back from its own text.
-/
structure NamesSound (names : DidName.State R.toName) : Prop where
  sound : names.Sound
  decoded : names.Decoded

theorem toOption_eq_some_iff {ε α : Type} {x : Except ε α} {a : α}
    : x.toOption = some a ↔ x = .ok a := by
  cases x with
  | error err => simp [Except.toOption]
  | ok b => simp [Except.toOption]

theorem tryFrom_toList {names : DidName.State R.toName} (h : names.Decoded) {name : R.toName.Name}
    (hname : names.owner.containsKey name = true) : R.toName.tryFrom name.toList = .ok name := by
  obtain ⟨input, hinput⟩ := h name hname
  have heq : name.toList = input := ((DidName.tryFrom_iff ..).mp hinput).1
  rw [heq]
  exact hinput

theorem dispatchOther_namesSound {call : R.did.OtherCall} {origin : Did.Origin R.did.toTypes}
    {world world' : R.World} (h : R.dispatchOther call origin world = some world')
    (hworld : NamesSound world.1) : NamesSound world'.1 := by
  unfold dispatchOther at h
  split at h
  . next call' _ =>
    split at h
    . next names hsucc =>
      injection h with h
      rw [← h]
      constructor
      . apply (DidName.Call.dispatch_step hsucc).sound
        exact ⟨hworld.sound.inverse, hworld.sound.banned⟩
      . exact DidName.Call.dispatch_decoded (s := { world.1 with blockNumber := R.blockNumber world.2 })
          hworld.decoded hsucc
    . cases h
  . obtain ⟨rest, _, rfl⟩ := Option.map_eq_some_iff.mp h
    exact hworld

theorem run_namesSound (world : R.did.World) (exts : List (Did.Extrinsic R.toDid))
    : NamesSound ((Did.machine R.toDid).run
        (Did.State.genesis R.toDid (DidName.State.genesis R.toName, world)) exts).world.1 := by
  have hrule := Did.DispatchRule.of_world (T := R.toDid) (J := fun world => NamesSound world.1)
    fun _ _ _ _ h hworld => dispatchOther_namesSound h hworld
  apply hrule.run
  refine ⟨DidName.run_sound [], ?_⟩
  intro name h
  cases h

/--
The lookup by name finds what the lookup by identifier finds for the DID that has the name, and nothing else.
-/
theorem run_queryByName_iff (world : R.did.World) (exts : List (Did.Extrinsic R.toDid))
    (name : List UInt8) (info : RawDidLinkedInfo R.did.toTypes)
    : R.queryByName ((Did.machine R.toDid).run
          (Did.State.genesis R.toDid (DidName.State.genesis R.toName, world)) exts) name = some info ↔
        info.name = some name ∧
          R.query ((Did.machine R.toDid).run
            (Did.State.genesis R.toDid (DidName.State.genesis R.toName, world)) exts)
            info.identifier = some info := by
  obtain ⟨hsound, hdecoded⟩ := run_namesSound world exts
  generalize (Did.machine R.toDid).run _ exts = s at hsound hdecoded ⊢
  simp only [queryByName, query, Option.bind_eq_bind, Option.bind_eq_some_iff, Option.pure_def,
    Option.some.injEq]
  constructor
  . rintro ⟨dname, hdname, ownership, howner, details, hdetails, rfl⟩
    have hnames := hsound.inverse.get_left howner
    refine ⟨?_, details, hdetails, ?_⟩
    . rw [toOption_eq_some_iff] at hdname
      rw [((DidName.tryFrom_iff ..).mp hdname).1]
    . rw [hnames]
      rfl
  . rintro ⟨hname, details, hdetails, hinfo⟩
    rw [← hinfo] at hname
    obtain ⟨dname, hnames, rfl⟩ := Option.map_eq_some_iff.mp hname
    obtain ⟨ownership, howner, hidentifier⟩ := (hsound.inverse _ _).mp hnames
    refine ⟨dname, ?_, ownership, howner, details, ?_, ?_⟩
    . rw [toOption_eq_some_iff]
      exact tryFrom_toList hdecoded (StorageMap.containsKey_of_get howner)
    . rw [hidentifier]
      exact hdetails
    . rw [hidentifier, ← hinfo, hnames]
      rfl

end NameConfig
end Runtime
