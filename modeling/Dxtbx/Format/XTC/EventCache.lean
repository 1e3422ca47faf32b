import Dxtbx.Format.XTC.Spectrum

/-!
# The event cache

`_get_event` keeps the last event it read in `current_event`, under its index in
`current_index`.  It sets `current_index` before the lookup, so a lookup that raises leaves the
new index beside the old event, and `_get_event` then returns that event for an index whose
lookup raises.  What holds over every sequence of calls is that the cache can only hide an
error: `_get_event(i)` returns what the uncached lookup of `i` returns, or that lookup raises.
-/

namespace Dxtbx.Format.XTC

variable {T D : Type} (ps : Psana D) (x : FormatXTC T D)

/-- The event cache is sound: at `current_index` it holds the event of the uncached lookup,
whenever that lookup succeeds. -/
def EventCacheSound (c : Caches D) : Prop :=
  ∀ i, c.currentIndex = some i → ∀ v, lookupEvent ps x i = .ok v → c.currentEvent = v

@[simp] theorem eventCacheSound_beamIndex (c : Caches D) (b : Option Int) :
    EventCacheSound ps x { c with beamIndex := b } ↔ EventCacheSound ps x c := Iff.rfl

@[simp] theorem eventCacheSound_beamCache (c : Caches D) (b : Option Beam) :
    EventCacheSound ps x { c with beamCache := b } ↔ EventCacheSound ps x c := Iff.rfl

theorem eventCacheSound_fresh : EventCacheSound ps x {} := fun _ h ↦ nomatch h

theorem resultState_getPsanaTimestamp (i : Int) (c : Caches D) :
    resultState (getPsanaTimestamp ps x i c) = resultState (getEvent ps x i c) := by
  unfold getPsanaTimestamp
  rcases getEvent ps x i c with ⟨_ | _, _⟩ | ⟨_, _⟩ <;> rfl

section Sound

variable {ps x} {c : Caches D}

/-- From a sound cache, `_get_event(i)` returns the event of a lookup that succeeds and leaves it
cached under `i`. -/
theorem getEvent_of_lookupEvent_ok (hc : EventCacheSound ps x c) {i : Int}
    {v : Option (Event D)} (h : lookupEvent ps x i = .ok v) :
    getEvent ps x i c = .ok v { c with currentIndex := some i, currentEvent := v } := by
  by_cases hi : c.currentIndex = some i
  · rw [getEvent_of_eq ps x hi, ← hc i hi v h]
    cases c
    simp_all
  · rw [getEvent_of_ne ps x hi, h]

/-- `_get_event(i)` raises only the error of the uncached lookup, with `current_index` set to
`i` and `current_event` left as it was. -/
theorem getEvent_eq_error {i : Int} {e : PyError} {c' : Caches D}
    (h : getEvent ps x i c = .error e c') :
    lookupEvent ps x i = .error e ∧ c' = { c with currentIndex := some i } := by
  by_cases hi : c.currentIndex = some i
  · rw [getEvent_of_eq ps x hi] at h
    cases h
  · rw [getEvent_of_ne ps x hi] at h
    cases hl : lookupEvent ps x i <;> rw [hl] at h <;> cases h
    exact ⟨rfl, rfl⟩

theorem eventCacheSound_getEvent (hc : EventCacheSound ps x c) (i : Int) :
    EventCacheSound ps x (resultState (getEvent ps x i c)) := by
  by_cases hi : c.currentIndex = some i
  · rwa [getEvent_of_eq ps x hi]
  rw [getEvent_of_ne ps x hi]
  intro j hj v hv
  cases hl : lookupEvent ps x i with
  | ok evt =>
      simp only [hl, resultState_ok, Option.some.injEq] at hj ⊢
      subst hj
      simpa [hl] using hv
  | error e =>
      simp only [hl, resultState_error, Option.some.injEq] at hj
      subst hj
      simp [hl] at hv

theorem eventCacheSound_getSpectrum (hc : EventCacheSound ps x c) (i : Int) :
    EventCacheSound ps x (resultState (getSpectrum ps x i c)) := by
  rw [resultState_getSpectrum, resultState_spectrum]
  cases spectrumIndex x i with
  | none => exact hc
  | some j => exact eventCacheSound_getEvent hc j

theorem eventCacheSound_beam (hc : EventCacheSound ps x c) (i : Int) :
    EventCacheSound ps x (resultState (beam ps x i c)) := by
  by_cases hb : c.beamIndex = some i
  · rwa [beam_of_eq ps x hb]
  have h1 := eventCacheSound_getEvent (show EventCacheSound ps x { c with beamIndex := some i }
    from hc) i
  obtain ⟨b, h | h⟩ := resultState_beam_of_ne ps x hb <;> rw [h, eventCacheSound_beamCache]
  · exact h1
  · exact eventCacheSound_getSpectrum h1 i

/-- Every call keeps the event cache sound. -/
theorem eventCacheSound_callStep (hc : EventCacheSound ps x c) (call : Call) :
    EventCacheSound ps x (callStep ps x call c) := by
  cases call with
  | getEvent i => exact eventCacheSound_getEvent hc i
  | getSpectrum i => exact eventCacheSound_getSpectrum hc i
  | getBeam i => exact eventCacheSound_beam hc i
  | getPsanaTimestamp i =>
      rw [callStep, resultState_getPsanaTimestamp]
      exact eventCacheSound_getEvent hc i

theorem eventCacheSound_afterCalls (calls : List Call) (hc : EventCacheSound ps x c) :
    EventCacheSound ps x (afterCalls ps x calls c) := by
  induction calls generalizing c with
  | nil => exact hc
  | cons call calls ih => exact ih (eventCacheSound_callStep hc call)

end Sound

/-! ## Reachable states -/

/-- After any sequence of calls from a fresh instance, `_get_event(i)` returns what the uncached
lookup of `i` returns, or that lookup raises and `_get_event(i)` returns the cached event in its
place. -/
theorem getEvent_after_calls (calls : List Call) (i : Int) :
    resultValue (getEvent ps x i (afterCalls ps x calls {})) = lookupEvent ps x i ∨
      (∃ e, lookupEvent ps x i = .error e) ∧
        ∃ v, resultValue (getEvent ps x i (afterCalls ps x calls {})) = .ok v := by
  have hc := eventCacheSound_afterCalls calls (eventCacheSound_fresh ps x)
  cases hl : lookupEvent ps x i with
  | ok v => exact .inl (by rw [getEvent_of_lookupEvent_ok hc hl, resultValue_ok])
  | error e =>
      rcases hg : getEvent ps x i (afterCalls ps x calls {}) with ⟨v, c'⟩ | ⟨e', c'⟩
      · exact .inr ⟨⟨e, rfl⟩, v, rfl⟩
      · obtain ⟨he, -⟩ := getEvent_eq_error hg
        exact .inl (by rw [resultValue_error, ← he, hl])

/-- One image: after `_get_event(0)` and a `_get_event(1)` that raised, `current_index` is 1
while the uncached lookup of 1 raises `IndexError`, and `_get_event(1)` returns the event of
image 0. -/
theorem getEvent_after_raised_lookup :
    ∃ x, FormatXTC.init Psana.plain {} oneImage = .ok x ∧
      (afterCalls Psana.plain x [.getEvent 0, .getEvent 1] {}).currentIndex = some 1 ∧
      lookupEvent Psana.plain x 1 = .error (.indexError "Index is not within bounds") ∧
      resultValue (getEvent Psana.plain x 1 (afterCalls Psana.plain x [.getEvent 0, .getEvent 1] {})) =
        .ok (some ⟨1, 0⟩) :=
  ⟨_, rfl, rfl, rfl, rfl⟩

end Dxtbx.Format.XTC
