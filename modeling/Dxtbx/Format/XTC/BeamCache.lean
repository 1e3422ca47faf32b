import Dxtbx.Format.XTC.EventCache

/-!
# The beam cache

`_beam` keeps the last beam it built in `_beam_cache`, under its index in `_beam_index`.  It
sets `_beam_index` first and stores the beam last, so two paths leave the index of one image
beside the beam of another: a lookup that raises, and a spectrum that `check_spectrum` rejects,
after which `_beam` returns `None` without storing anything.  A later `get_beam` of that index
returns the old beam.  The first path only hides an error, the second only a `None`: wherever a
fresh instance returns a beam, `get_beam(i)` returns it after any sequence of calls, and without
`check_spectrum` it returns whatever a fresh instance returns.
-/

namespace Dxtbx.Format.XTC

variable {T D : Type} (ps : Psana D) (x : FormatXTC T D)

/-- The beam cache is sound: at `_beam_index` it holds what `_beam` returns on a fresh instance,
whenever that call returns, unless it returned `None` with `check_spectrum` on. -/
def BeamCacheSound (c : Caches D) : Prop :=
  ∀ i, c.beamIndex = some i → ∀ v, resultValue (beam ps x i {}) = .ok v →
    c.beamCache = v ∨ v = none ∧ x.params.checkSpectrumEnable = true

/-! ## What the event reads leave of the beam attributes -/

section Frame

variable {ps x} (i : Int) (c : Caches D)

@[simp] theorem beamIndex_getEvent : (resultState (getEvent ps x i c)).beamIndex = c.beamIndex := by
  by_cases h : c.currentIndex = some i
  · rw [getEvent_of_eq ps x h, resultState_ok]
  · rw [getEvent_of_ne ps x h]
    cases lookupEvent ps x i <;> rfl

@[simp] theorem beamCache_getEvent : (resultState (getEvent ps x i c)).beamCache = c.beamCache := by
  by_cases h : c.currentIndex = some i
  · rw [getEvent_of_eq ps x h, resultState_ok]
  · rw [getEvent_of_ne ps x h]
    cases lookupEvent ps x i <;> rfl

@[simp] theorem beamIndex_getSpectrum :
    (resultState (getSpectrum ps x i c)).beamIndex = c.beamIndex := by
  rw [resultState_getSpectrum, resultState_spectrum]
  cases spectrumIndex x i <;> simp

@[simp] theorem beamCache_getSpectrum :
    (resultState (getSpectrum ps x i c)).beamCache = c.beamCache := by
  rw [resultState_getSpectrum, resultState_spectrum]
  cases spectrumIndex x i <;> simp

/-- `_get_event` does not read `_beam_cache`. -/
theorem resultValue_getEvent_beamCache (b : Option Beam) :
    resultValue (getEvent ps x i { c with beamCache := b }) = resultValue (getEvent ps x i c) := by
  have h' : ∀ j, ({ c with beamCache := b } : Caches D).currentIndex = some j ↔
      c.currentIndex = some j := fun _ ↦ Iff.rfl
  by_cases h : c.currentIndex = some i
  · rw [getEvent_of_eq ps x h, getEvent_of_eq ps x ((h' i).2 h)]
    rfl
  · rw [getEvent_of_ne ps x h, getEvent_of_ne ps x (mt (h' i).1 h)]
    cases lookupEvent ps x i <;> rfl

/-- `get_spectrum` does not read `_beam_cache`. -/
theorem resultValue_getSpectrum_beamCache (b : Option Beam) :
    resultValue (getSpectrum ps x i { c with beamCache := b }) =
      resultValue (getSpectrum ps x i c) := by
  simp only [resultValue_getSpectrum, resultValue_spectrum, resultValue_spectrumAt,
    resultValue_getEvent_beamCache]

end Frame

/-- `_beam` builds a beam for every event and spectrum unless `check_spectrum` is on. -/
theorem checkSpectrumEnable_of_beamOf {evt : Event D} {s : Option Spectrum}
    (h : beamOf ps x evt s = none) : x.params.checkSpectrumEnable = true := by
  rcases s with _ | s
  · simp [beamOf] at h
  · by_contra hc
    simp [beamOf, hc] at h

/-! ## `_beam` -/

section Beam

variable {ps x} {c : Caches D}

/-- Where `_beam(i)` returns `v` on a fresh instance, it returns `v` too from a sound event cache
and another `_beam_index`, and stores it unless `check_spectrum` rejected the spectrum. -/
theorem beam_of_fresh_ok {i : Int} (hc : EventCacheSound ps x c) (hb : c.beamIndex ≠ some i)
    {v : Option Beam} (hv : resultValue (beam ps x i {}) = .ok v) :
    resultValue (beam ps x i c) = .ok v ∧
      ((resultState (beam ps x i c)).beamCache = v ∨
        v = none ∧ x.params.checkSpectrumEnable = true) := by
  unfold beam at hv ⊢
  rw [if_neg hb]
  rw [if_neg (by simp)] at hv
  dsimp only at hv ⊢
  cases hl : lookupEvent ps x i with
  | error e =>
      rw [getEvent_of_ne ps x (by simp), hl] at hv
      cases hv
  | ok w =>
      rw [getEvent_of_lookupEvent_ok
        (show EventCacheSound ps x ⟨none, none, some i, none⟩ from fun _ h ↦ Option.noConfusion h)
        hl] at hv
      rw [getEvent_of_lookupEvent_ok (show EventCacheSound ps x { c with beamIndex := some i }
        from hc) hl]
      cases w with
      | none =>
          simp only [resultValue_ok, Except.ok.injEq] at hv
          exact ⟨by rw [← hv]; rfl, .inl hv⟩
      | some evt =>
          dsimp only at hv ⊢
          have hs : resultValue (getSpectrum ps x i ⟨some i, some evt, some i, c.beamCache⟩) =
              resultValue (getSpectrum ps x i ⟨some i, some evt, some i, none⟩) :=
            resultValue_getSpectrum_beamCache i ⟨some i, some evt, some i, none⟩ c.beamCache
          rcases hsF : getSpectrum ps x i ⟨some i, some evt, some i, none⟩ with ⟨s, f3⟩ | ⟨e, f3⟩
          · obtain ⟨c3, hsC⟩ :
                ∃ c3, getSpectrum ps x i ⟨some i, some evt, some i, c.beamCache⟩ = .ok s c3 := by
              rcases hsC : getSpectrum ps x i ⟨some i, some evt, some i, c.beamCache⟩ with
                ⟨s', c3⟩ | ⟨e, c3⟩ <;> rw [hsC, hsF] at hs <;> cases hs
              exact ⟨c3, rfl⟩
            simp only [hsF] at hv
            simp only [hsC]
            rcases hbo : beamOf ps x evt s with _ | b <;>
              simp only [hbo, resultValue_ok, resultState_ok, Except.ok.injEq] at hv ⊢
            · exact ⟨hv, .inr ⟨hv.symm, checkSpectrumEnable_of_beamOf ps x hbo⟩⟩
            · exact ⟨hv, .inl hv⟩
          · simp [hsF] at hv

/-- Every `_beam(i)` leaves `_beam_index` at `i`, whether it returned or raised. -/
theorem beamIndex_beam (i : Int) : (resultState (beam ps x i c)).beamIndex = some i := by
  by_cases hb : c.beamIndex = some i
  · rw [beam_of_eq ps x hb, resultState_ok, hb]
  obtain ⟨b, h | h⟩ := resultState_beam_of_ne ps x hb <;> simp [h]

end Beam

/-! ## Reachable states -/

section Sound

variable {ps x} {c : Caches D}

theorem beamCacheSound_fresh : BeamCacheSound ps x {} := fun _ h ↦ Option.noConfusion h

theorem beamCacheSound_of_frame {c' : Caches D} (hi : c'.beamIndex = c.beamIndex)
    (hb : c'.beamCache = c.beamCache) (hc : BeamCacheSound ps x c) : BeamCacheSound ps x c' :=
  fun i h v hv ↦ hb ▸ hc i (hi ▸ h) v hv

/-- `_beam` keeps the beam cache sound, given a sound event cache. -/
theorem beamCacheSound_beam (hc : EventCacheSound ps x c) (hbc : BeamCacheSound ps x c) (i : Int) :
    BeamCacheSound ps x (resultState (beam ps x i c)) := by
  intro j hj v hv
  rw [beamIndex_beam, Option.some.injEq] at hj
  subst hj
  by_cases hb : c.beamIndex = some i
  · rw [beam_of_eq ps x hb]
    exact hbc i hb v hv
  · exact (beam_of_fresh_ok hc hb hv).2

theorem beamCacheSound_callStep (hc : EventCacheSound ps x c) (hbc : BeamCacheSound ps x c) (call : Call) :
    BeamCacheSound ps x (callStep ps x call c) := by
  cases call with
  | getEvent i => exact beamCacheSound_of_frame (beamIndex_getEvent i c) (beamCache_getEvent i c) hbc
  | getSpectrum i =>
      exact beamCacheSound_of_frame (beamIndex_getSpectrum i c) (beamCache_getSpectrum i c) hbc
  | getBeam i => exact beamCacheSound_beam hc hbc i
  | getPsanaTimestamp i =>
      rw [callStep, resultState_getPsanaTimestamp]
      exact beamCacheSound_of_frame (beamIndex_getEvent i c) (beamCache_getEvent i c) hbc

theorem cachesSound_afterCalls (calls : List Call) (hc : EventCacheSound ps x c) (hbc : BeamCacheSound ps x c) :
    EventCacheSound ps x (afterCalls ps x calls c) ∧ BeamCacheSound ps x (afterCalls ps x calls c) := by
  induction calls generalizing c with
  | nil => exact ⟨hc, hbc⟩
  | cons call calls ih =>
      exact ih (eventCacheSound_callStep hc call) (beamCacheSound_callStep hc hbc call)

end Sound

/-- Without `check_spectrum`, after any sequence of calls from a fresh instance, `get_beam(i)`
returns what it returns on a fresh instance, or that fresh call raises. -/
theorem getBeam_after_calls (hcheck : x.params.checkSpectrumEnable = false) (calls : List Call)
    (i : Int) :
    resultValue (getBeam ps x i (afterCalls ps x calls {})) = resultValue (getBeam ps x i {}) ∨
      ∃ e, resultValue (getBeam ps x i {}) = .error e := by
  obtain ⟨hc, hbc⟩ :=
    cachesSound_afterCalls calls (eventCacheSound_fresh ps x) beamCacheSound_fresh
  unfold getBeam
  cases hv : resultValue (beam ps x i {}) with
  | error e => exact .inr ⟨e, rfl⟩
  | ok v =>
      left
      by_cases hb : (afterCalls ps x calls {}).beamIndex = some i
      · rw [beam_of_eq ps x hb, resultValue_ok,
          (hbc i hb v hv).resolve_right fun h ↦ by simp [hcheck] at h]
      · exact (beam_of_fresh_ok hc hb hv).1

theorem getBeam_after_calls_one_image :
    ∃ x, FormatXTC.init Psana.plain {} oneImage = .ok x ∧ x.params.checkSpectrumEnable = false ∧
      (resultValue (getBeam Psana.plain x 0 (afterCalls Psana.plain x [.getBeam 1, .getEvent 0] {})) =
          resultValue (getBeam Psana.plain x 0 {}) ∨
        ∃ e, resultValue (getBeam Psana.plain x 0 {}) = .error e) :=
  ⟨_, rfl, rfl, getBeam_after_calls Psana.plain _ rfl _ 0⟩

/-- A FEE trace for every event, of as many pixels as the event's data, and spectra that
`check_spectrum` accepts only when they have no energies. -/
def rejectingSpectra : Psana Nat :=
  { Psana.plain with
    feeTrace := fun e ↦ .ok (some (List.replicate e.data 0, []))
    makeSpectrum := fun energies weights ↦ some ⟨energies, weights⟩
    checkSpectrum := fun s ↦ s.energies.isEmpty
    weightedWavelength := fun _ ↦ 1 }

/-- Spectra on, with an eV offset, and checked. -/
def spectraChecked : Params :=
  { spectrumEVPerPixel := some 1, spectrumEVOffset := some 0, checkSpectrumEnable := true }

/-- After any sequence of calls from a fresh instance, `check_spectrum` on or off, `get_beam(i)`
returns every beam a fresh instance returns for `i`. -/
theorem getBeam_after_calls_of_some (calls : List Call) (i : Int) (b : Beam)
    (hv : resultValue (getBeam ps x i {}) = .ok (some b)) :
    resultValue (getBeam ps x i (afterCalls ps x calls {})) = .ok (some b) := by
  obtain ⟨hc, hbc⟩ :=
    cachesSound_afterCalls calls (eventCacheSound_fresh ps x) beamCacheSound_fresh
  unfold getBeam at hv ⊢
  by_cases hb : (afterCalls ps x calls {}).beamIndex = some i
  · rw [beam_of_eq ps x hb, resultValue_ok,
      (hbc i hb _ hv).resolve_right fun h ↦ Option.noConfusion h.1]
  · exact (beam_of_fresh_ok hc hb hv).1

theorem getBeam_after_calls_of_some_checked :
    ∃ x, FormatXTC.init rejectingSpectra spectraChecked twoRuns = .ok x ∧
      resultValue (getBeam rejectingSpectra x 0 {}) = .ok (some (Beam.simple 1)) ∧
      resultValue (getBeam rejectingSpectra x 0
        (afterCalls rejectingSpectra x [.getBeam 1, .getEvent 5, .getBeam 0] {})) =
        .ok (some (Beam.simple 1)) :=
  ⟨_, rfl, rfl, getBeam_after_calls_of_some rejectingSpectra _ _ 0 _ rfl⟩

/-- With `check_spectrum` on and the spectrum of image 1 rejected, `get_beam(0)` and then
`get_beam(1)` leave `_beam_index` at 1 beside the beam of image 0, which the next `get_beam(1)`
returns where a fresh instance returns `None`.  With one image, a `get_beam(1)` that raised
leaves `_beam_index` at 1, and the next `get_beam(1)` returns where a fresh instance raises. -/
theorem getBeam_after_rejected_spectrum :
    (∃ x, FormatXTC.init rejectingSpectra spectraChecked twoRuns = .ok x ∧
      resultValue (getBeam rejectingSpectra x 1 {}) = .ok none ∧
      (afterCalls rejectingSpectra x [.getBeam 0, .getBeam 1] {}).beamIndex = some 1 ∧
      resultValue (getBeam rejectingSpectra x 1
        (afterCalls rejectingSpectra x [.getBeam 0, .getBeam 1] {})) = .ok (some (Beam.simple 1))) ∧
    ∃ x, FormatXTC.init Psana.plain {} oneImage = .ok x ∧
      resultValue (getBeam Psana.plain x 1 {}) = .error (.indexError "Index is not within bounds") ∧
      resultValue (getBeam Psana.plain x 1 (afterCalls Psana.plain x [.getBeam 0, .getBeam 1] {})) =
        .ok none :=
  ⟨⟨_, rfl, rfl, rfl, rfl⟩, _, rfl, rfl, rfl⟩

end Dxtbx.Format.XTC
