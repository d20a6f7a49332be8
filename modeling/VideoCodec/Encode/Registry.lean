import VideoCodec.Encode.Engine
/-!
# Registered input buffers

A caller can register a buffer with the engine so that the engine reads it in
place. The registry remembers the handle of every registered address, and
keeps the frame that owns the buffer for as long as the registration lasts;
an address that is registered already gives its handle again without a
second registration, and without keeping the second owner. Releasing all
registrations asks the engine to release each, empties the registry whatever
the engine says, owners included, and reports the first failure.
-/

namespace VideoCodec

/-- The registered addresses with their handles, in registration order, and
the frames that own them. -/
structure InputRegistry where
  entries : List (Nat × Nat) := []
  /-- The frame that owns each registered buffer, in the order of `entries`. -/
  owners : List FrameSource := []
  deriving DecidableEq, Repr

namespace InputRegistry

/-- The handle of a registered address. -/
def handle (r : InputRegistry) (ptr : Nat) : Option Nat :=
  r.entries.lookup ptr

/-- Number of registrations. -/
def size (r : InputRegistry) : Nat := r.entries.length

/-- How many registrations keep a frame alive. -/
def ownerRefs (r : InputRegistry) (owner : FrameSource) : Nat := r.owners.count owner

/-- Registers an address owned by a frame, or gives its existing handle. -/
def register (r : InputRegistry) (e : EncodeEngine) (ptr : Nat) (owner : FrameSource) :
    Nat × InputRegistry × EncodeEngine :=
  match r.handle ptr with
  | some h => (h, r, e)
  | none =>
    let (h, e) := e.registerResource ptr
    (h, { entries := r.entries ++ [(ptr, h)], owners := r.owners ++ [owner] }, e)

variable {r : InputRegistry} {e : EncodeEngine} {ptr : Nat} {owner : FrameSource}

/-- Registering an address that has a handle gives that handle and changes
nothing. -/
theorem register_of_handle {h : Nat} (hr : r.handle ptr = some h) :
    r.register e ptr owner = (h, r, e) := by
  simp [register, hr]

/-- Registering a new address asks the engine for a handle and records the
address with it, and its owner. -/
theorem register_of_handle_none (hr : r.handle ptr = none) :
    r.register e ptr owner = ((e.registerResource ptr).1,
      { entries := r.entries ++ [(ptr, (e.registerResource ptr).1)], owners := r.owners ++ [owner] },
      (e.registerResource ptr).2) := by
  simp [register, hr]

/-- Every registration keeps one owner: registering keeps the owners one per
registration. -/
theorem register_owners_length (h : r.owners.length = r.entries.length) :
    (r.register e ptr owner).2.1.owners.length = (r.register e ptr owner).2.1.entries.length := by
  unfold register
  split <;> simp [h]

/-- Releases handles one by one, keeping the first failure. -/
def releaseAll (e : EncodeEngine) : List Nat → Option CodecError × EncodeEngine
  | [] => (none, e)
  | h :: hs =>
    match e.unregisterResource h with
    | .ok e' => releaseAll e' hs
    | .error err => (some err, (releaseAll e hs).2)

/-- Releases every registration; the registry ends empty. -/
def unregisterAll (r : InputRegistry) (e : EncodeEngine) :
    Except CodecError Unit × InputRegistry × EncodeEngine :=
  let (err, e) := releaseAll e (r.entries.map (·.2))
  (match err with | some x => .error x | none => .ok (), {}, e)

/-- Releasing everything empties the registry, whatever the engine answers. -/
theorem unregisterAll_registry (r : InputRegistry) (e : EncodeEngine) :
    (r.unregisterAll e).2.1 = {} := rfl

end InputRegistry

end VideoCodec
