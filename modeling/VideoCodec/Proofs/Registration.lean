import Mathlib
import VideoCodec.Proofs.Session
/-!
# Registered inputs and the engine's registrations

A session registers a caller's device frame with the engine once per address:
the address is the one the input check derives from the frame, and the
registry remembers its handle. This file proves that the registry and the
engine never drift apart, over any run of calls on a session created over an
engine with no registrations.

The invariant (`Encoder.RegistryInSync`) is that the registry holds exactly the
engine's registrations, no address twice, with handles 1, 2, … in the order
they were made. Only a registration changes either side, and it changes both
alike (`RegistryInSync.registerInputFrame`); every other call leaves both
alone (`Encoder.SameRegistry`). From the invariant follows what a caller sees
(`Encoder.RegistrationsKept`): the session's handle for an address is the
engine's, a registered frame gets its handle back without a second
registration, a refused frame and a host buffer change nothing, and closing
the session releases every handle once and empties the registry, also when
the engine fails every release (`registrations_kept`).
-/

namespace VideoCodec

/-! ### Looking up a registration -/

/-- In a list of pairs with distinct keys, a lookup finds exactly the pairs of
the list. -/
theorem lookup_eq_some_iff_mem {l : List (Nat × Nat)} (hnd : (l.map Prod.fst).Nodup)
    {k v : Nat} : l.lookup k = some v ↔ (k, v) ∈ l := by
  induction l with
  | nil => simp
  | cons e rest ih =>
    obtain ⟨k', v'⟩ := e
    rw [List.map_cons, List.nodup_cons] at hnd
    by_cases hk : k = k'
    · subst hk
      -- the first pair is the only one with this key
      have hnot : (k, v) ∉ rest := fun hmem =>
        hnd.1 (List.mem_map.mpr ⟨(k, v), hmem, rfl⟩)
      simp [hnot, eq_comm]
    · simp [List.lookup_cons, beq_false_of_ne hk, hk, ih hnd.2]

namespace InputRegistry

/-- Releasing with an engine that releases: every handle is recorded, in order,
and nothing fails. -/
theorem releaseAll_of_releases {e : EncodeEngine} (hok : e.failUnregister = false)
    (hs : List Nat) : releaseAll e hs = (none, { e with unregistered := e.unregistered ++ hs }) := by
  induction hs generalizing e with
  | nil => simp [releaseAll]
  | cons h hs ih =>
    have hrel : e.unregisterResource h = .ok { e with unregistered := e.unregistered ++ [h] } := by
      simp [EncodeEngine.unregisterResource, hok]
    rw [releaseAll, hrel]
    simp [ih, hok]

/-- Releasing with an engine that fails every release: every handle is tried,
the engine is left as it was, and the first failure is kept. -/
theorem releaseAll_of_fails {e : EncodeEngine} (hfail : e.failUnregister = true) (hs : List Nat) :
    releaseAll e hs =
      (if hs = [] then none else some (.provider "unregister_resource" 8), e) := by
  induction hs with
  | nil => rfl
  | cons h hs ih =>
    have hrel : e.unregisterResource h = .error (.provider "unregister_resource" 8) := by
      simp [EncodeEngine.unregisterResource, hfail]
    rw [releaseAll, hrel]
    simp [ih]

theorem unregisterAll_eq (r : InputRegistry) (e : EncodeEngine) :
    r.unregisterAll e =
      (match (releaseAll e (r.entries.map (·.2))).1 with | some x => .error x | none => .ok (),
        {}, (releaseAll e (r.entries.map (·.2))).2) := rfl

end InputRegistry

/-! ### Calls that leave registrations alone -/

namespace Encoder

/-- Two sessions with the same registry over an engine with the same
registrations. -/
structure SameRegistry (enc enc' : Encoder) : Prop where
  registry : enc'.registry = enc.registry
  registrations : enc'.engine.registrations = enc.engine.registrations

theorem SameRegistry.refl (enc : Encoder) : SameRegistry enc enc := ⟨rfl, rfl⟩

theorem sameRegistry_encode (enc : Encoder) (src : FrameSource) (ts : Int) :
    SameRegistry enc (enc.encode src ts).2 := by
  rcases hacq : (enc.inputConfig enc.settings.hostInput).acquire src enc.engine with
    err | ⟨slot, e1⟩
  · rw [encode_eq_of_acquire_error hacq]
    exact .refl enc
  · -- taking a slot, submitting and draining touch no registration
    obtain ⟨copy, -, -, rfl⟩ := InputConfig.acquire_eq_ok.mp hacq
    cases hfresh : enc.ledger.isPending enc.ledger.next
    · rw [encode_eq_of_acquire hacq hfresh]
      exact ⟨rfl, rfl⟩
    · rw [encode_eq_of_duplicate hacq hfresh]
      exact ⟨rfl, rfl⟩

theorem sameRegistry_endEncode (enc : Encoder) : SameRegistry enc enc.endEncode.2 := by
  rw [endEncode_eq]
  exact ⟨rfl, rfl⟩

theorem sameRegistry_applyReconfigure (enc : Encoder) (next : InitializeParams) :
    SameRegistry enc (enc.applyReconfigure next).2 := by
  rw [applyReconfigure_eq]
  split
  · exact .refl enc
  · exact ⟨rfl, rfl⟩

theorem sameRegistry_reconfigure (enc : Encoder) (r : ReconfigureParams) :
    SameRegistry enc (enc.reconfigure r).2 := by
  cases h : enc.engine.currentParams with
  | error e => simpa [reconfigure, h] using SameRegistry.refl enc
  | ok live =>
    rw [reconfigure_eq_of_currentParams h]
    exact sameRegistry_applyReconfigure _ _

theorem sameRegistry_reconfigureWithOptions (enc : Encoder) (o : EncoderOptions) :
    SameRegistry enc (enc.reconfigureWithOptions o).2 := by
  rw [reconfigureWithOptions_eq]
  split
  · exact .refl enc
  · exact sameRegistry_applyReconfigure _ _

/-! ### The invariant -/

/-- **The registry and the engine agree**: the registry holds the engine's
registrations in the order they were made, no address is registered twice,
and the handles are 1, 2, … in that order. -/
structure RegistryInSync (enc : Encoder) : Prop where
  entries : enc.registry.entries = enc.engine.registrations
  nodup : (enc.engine.registrations.map Prod.fst).Nodup
  handles : enc.engine.registrations.map Prod.snd = List.range' 1 enc.engine.registrations.length

namespace RegistryInSync

variable {enc enc' : Encoder}

/-- A session just created over an engine with no registrations. -/
theorem of_create {settings : EncoderSettings} {e : EncodeEngine} {mem : DeviceMemory}
    (hcreate : Encoder.create settings e mem = .ok enc) (hfresh : e.registrations = []) :
    RegistryInSync enc := by
  obtain ⟨params, -, rfl⟩ := create_eq_ok.mp hcreate
  refine ⟨?_, ?_, ?_⟩ <;> simp [EncodeEngine.start, hfresh]

theorem of_sameRegistry (h : RegistryInSync enc) (hs : SameRegistry enc enc') :
    RegistryInSync enc' where
  entries := by rw [hs.registry, hs.registrations]; exact h.entries
  nodup := by rw [hs.registrations]; exact h.nodup
  handles := by rw [hs.registrations]; exact h.handles

/-- **Registering an address keeps the registry and the engine alike**: a
registered address changes neither, and a new one is appended to both under
the next handle. -/
theorem register (h : RegistryInSync enc) (ptr : Nat) (owner : FrameSource) :
    RegistryInSync { enc with
      registry := (enc.registry.register enc.engine ptr owner).2.1,
      engine := (enc.registry.register enc.engine ptr owner).2.2 } := by
  cases hr : enc.registry.handle ptr with
  | some hd =>
    rw [InputRegistry.register_of_handle hr]
    exact h
  | none =>
    rw [InputRegistry.register_of_handle_none hr]
    -- an address without a handle is not among the engine's registrations
    have hnew : ptr ∉ enc.engine.registrations.map Prod.fst := by
      intro hmem
      obtain ⟨⟨p, v⟩, hpv, rfl⟩ := List.mem_map.mp hmem
      have hnone := List.lookup_eq_none_iff.mp (h.entries ▸ hr : enc.engine.registrations.lookup p = none)
      simp at hnone
      exact hnone p v hpv rfl
    refine ⟨?_, ?_, ?_⟩
    · simp [EncodeEngine.registerResource, h.entries]
    · show ((enc.engine.registrations ++ [(ptr, enc.engine.registrations.length + 1)]).map
        Prod.fst).Nodup
      rw [List.map_append, List.map_singleton]
      exact h.nodup.append (List.nodup_singleton ptr) (List.disjoint_singleton.mpr hnew)
    · simp only [EncodeEngine.registerResource, List.map_append, List.map_singleton, h.handles,
        List.length_append, List.length_singleton, List.range'_concat]
      rw [Nat.one_mul, Nat.add_comm 1]

theorem registerInputFrame (h : RegistryInSync enc) (src : FrameSource) :
    RegistryInSync (enc.registerInputFrame src).2 := by
  rcases registerInputFrame_cases enc src with hst | ⟨ptr, hst⟩
  · rw [hst]
    exact h
  · rw [hst]
    exact h.register ptr src

/-- **One call keeps the registry and the engine alike.** -/
theorem perform (h : RegistryInSync enc) (op : SessionOp) : RegistryInSync (enc.perform op).2 := by
  cases op with
  | encode src ts => exact h.of_sameRegistry (sameRegistry_encode enc src ts)
  | endEncode => exact h.of_sameRegistry (sameRegistry_endEncode enc)
  | reconfigure r => exact h.of_sameRegistry (sameRegistry_reconfigure enc r)
  | reconfigureWithOptions o => exact h.of_sameRegistry (sameRegistry_reconfigureWithOptions enc o)
  | registerInputFrame src => exact h.registerInputFrame src

/-- **A run keeps the registry and the engine alike.** -/
theorem run (h : RegistryInSync enc) (ops : List SessionOp) : RegistryInSync (enc.run ops).2 := by
  induction ops generalizing enc with
  | nil => exact h
  | cons op ops ih =>
    rw [run_cons]
    exact ih (h.perform op)

/-! ### What follows for a caller -/

/-- The session's handle for an address is the engine's registration of it. -/
theorem registration_iff (h : RegistryInSync enc) (ptr hd : Nat) :
    enc.registration ptr = some hd ↔ (ptr, hd) ∈ enc.engine.registrations := by
  rw [registration, InputRegistry.handle, h.entries]
  exact lookup_eq_some_iff_mem h.nodup

theorem registeredInputs_eq (h : RegistryInSync enc) :
    enc.registeredInputs = enc.engine.registrations.length := by
  rw [registeredInputs, InputRegistry.size, h.entries]

/-- No two registrations share a handle. -/
theorem handles_nodup (h : RegistryInSync enc) : (enc.engine.registrations.map Prod.snd).Nodup := by
  rw [h.handles]
  exact List.nodup_range'

/-- Closing with an engine that releases records every registered handle. -/
theorem close_of_releases (h : RegistryInSync enc) (hok : enc.engine.failUnregister = false) :
    enc.close.unregistered = enc.engine.unregistered ++ enc.engine.registrations.map Prod.snd := by
  rw [close, InputRegistry.unregisterAll_eq, InputRegistry.releaseAll_of_releases hok, h.entries]

/-- Closing with an engine that fails every release reports the failure of
the first, once there is a registration. -/
theorem close_of_fails (h : RegistryInSync enc) (hfail : enc.engine.failUnregister = true)
    (hsome : enc.engine.registrations ≠ []) :
    (enc.registry.unregisterAll enc.engine).1 = .error (.provider "unregister_resource" 8) := by
  have hne : enc.registry.entries.map (·.2) ≠ [] := by
    rw [h.entries]
    simpa using hsome
  rw [InputRegistry.unregisterAll_eq, InputRegistry.releaseAll_of_fails hfail, if_neg hne]

end RegistryInSync

/-- A frame the check refuses is refused with the check's failure and changes
nothing. -/
theorem registerInputFrame_of_error {enc : Encoder} {src : FrameSource} {err : CodecError}
    (h : (enc.inputConfig false).prepare src = .error err) :
    enc.registerInputFrame src = (.error err, enc) := by
  simp [registerInputFrame, h]

/-- A frame whose checked address is registered gets its handle back, and
nothing changes: the engine is not asked again. -/
theorem registerInputFrame_of_registered {enc : Encoder} {src : FrameSource} {copy : FrameCopy}
    {ptr hd : Nat} (hprep : (enc.inputConfig false).prepare src = .ok copy)
    (hsrc : copy.source = .device ptr) (hreg : enc.registration ptr = some hd) :
    enc.registerInputFrame src = (.ok hd, enc) := by
  simp [registerInputFrame, hprep, hsrc, InputRegistry.register_of_handle hreg]

/-- A host buffer cannot be registered: the check refuses it, since a session
registers with host input off. -/
theorem registerInputFrame_host (enc : Encoder) (len : Nat) :
    enc.registerInputFrame { host := some len } = (.error .hostInputDisabled, enc) :=
  registerInputFrame_of_error (by simp [InputConfig.prepare, inputConfig])

/-- **What a caller can rely on about registrations.** -/
structure RegistrationsKept (enc : Encoder) : Prop where
  /-- The engine never holds two registrations of one address. -/
  nodup : (enc.engine.registrations.map Prod.fst).Nodup
  /-- The session's handle for an address is the engine's registration of it. -/
  registration_iff : ∀ ptr hd, enc.registration ptr = some hd ↔ (ptr, hd) ∈ enc.engine.registrations
  /-- The session counts the engine's registrations. -/
  registeredInputs : enc.registeredInputs = enc.engine.registrations.length
  /-- A frame whose checked address is registered gets its handle back, and nothing
  changes: the engine is not asked to register it again. -/
  reregister : ∀ src copy ptr hd, (enc.inputConfig false).prepare src = .ok copy →
    copy.source = .device ptr → enc.registration ptr = some hd →
    enc.registerInputFrame src = (.ok hd, enc)
  /-- A frame the check refuses changes neither the registry nor the engine. -/
  refused : ∀ src err, (enc.inputConfig false).prepare src = .error err →
    enc.registerInputFrame src = (.error err, enc)
  /-- A host buffer is refused and changes nothing. -/
  host : ∀ len, enc.registerInputFrame { host := some len } = (.error .hostInputDisabled, enc)
  /-- No two registrations share a handle. -/
  handles_nodup : (enc.engine.registrations.map Prod.snd).Nodup
  /-- Closing with an engine that releases releases every registered handle once. -/
  close_releases : enc.engine.failUnregister = false →
    enc.close.unregistered.Perm (enc.engine.unregistered ++ enc.engine.registrations.map Prod.snd)
  /-- Closing with an engine that fails every release reports a failure. -/
  close_fails : enc.engine.failUnregister = true → enc.engine.registrations ≠ [] →
    (enc.registry.unregisterAll enc.engine).1 = .error (.provider "unregister_resource" 8)
  /-- Closing empties the registry, whatever the engine answers. -/
  close_empties : (enc.registry.unregisterAll enc.engine).2.1 = {}

theorem RegistryInSync.kept {enc : Encoder} (h : RegistryInSync enc) : RegistrationsKept enc where
  nodup := h.nodup
  registration_iff := h.registration_iff
  registeredInputs := h.registeredInputs_eq
  reregister := fun _ _ _ _ hprep hsrc hreg => registerInputFrame_of_registered hprep hsrc hreg
  refused := fun _ _ hprep => registerInputFrame_of_error hprep
  host := registerInputFrame_host enc
  handles_nodup := h.handles_nodup
  close_releases := fun hok => by rw [h.close_of_releases hok]
  close_fails := h.close_of_fails
  close_empties := InputRegistry.unregisterAll_registry _ _

variable {settings : EncoderSettings} {e : EncodeEngine} {mem : DeviceMemory} {enc : Encoder}

/-- **The registry and the engine agree over every run.** On a session created
over an engine with no registrations, after any calls (registrations, encodes,
flushes and reconfigurations in any order): the engine never holds two
registrations of one address, the session's handle for an address is the one
the engine registered it under, and the session counts the engine's
registrations; a frame whose checked address is registered gets its handle
back without a second registration, and a frame the check refuses, a host
buffer among them, changes neither side; and closing releases every
registered handle exactly once when the engine releases, reports a failure
when it fails, and empties the registry either way. -/
theorem registrations_kept (hcreate : Encoder.create settings e mem = .ok enc)
    (hfresh : e.registrations = []) (ops : List SessionOp) :
    RegistrationsKept (enc.run ops).2 :=
  ((RegistryInSync.of_create hcreate hfresh).run ops).kept

/-- An NV12 session at 64x32 over a fresh engine: whatever is called on it,
the registry and the engine agree. -/
theorem registrations_kept_at_64x32 :
    ∃ enc, Encoder.create { width := 64, height := 32 } {} ⟨0⟩ = .ok enc ∧
      ({} : EncodeEngine).registrations = [] ∧
      ∀ ops : List SessionOp, RegistrationsKept (enc.run ops).2 := by
  obtain ⟨enc, hcreate⟩ : ∃ enc, Encoder.create { width := 64, height := 32 } {} ⟨0⟩ = .ok enc :=
    ⟨_, rfl⟩
  exact ⟨enc, hcreate, rfl, registrations_kept hcreate rfl⟩

end Encoder

end VideoCodec
