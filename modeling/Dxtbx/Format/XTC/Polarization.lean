import Dxtbx.Format.XTC.BeamCache

/-!
# The polarization switch

`_beam` gives a beam the polarization normal `(1, 0, 0)` when `time.gmtime` of its event's
seconds falls in July 2020 or later.  Through the civil calendar that `gmtime` computes, this
test is a threshold on the seconds themselves: the beams of events from 2020-07-01 00:00:00 UTC
(`1593561600` s after the epoch) on get the normal, and all earlier ones keep none.
-/

namespace Dxtbx.Format.XTC

variable {T D : Type} (ps : Psana D) (x : FormatXTC T D)

/-- The test of `_beam` on `gmtime(s)` holds exactly from `s = 1593561600` on.  The days since
0000-03-01 split into 400-year eras; the threshold lies in era 5 (2000-03-01 to 2400-02-29), on
day 7427 of it, and the eras before and after it lie wholly on one side. -/
theorem gmtime_july_2020_iff (s : Int) :
    ((gmtimeYearMonth s).1 = 2020 ∧ 7 ≤ (gmtimeYearMonth s).2 ∨ (gmtimeYearMonth s).1 > 2020) ↔
      1593561600 ≤ s := by
  simp only [gmtimeYearMonth]
  generalize hz : s / 86400 + 719468 = z
  have hs : 1593561600 ≤ s ↔ 737912 ≤ z := by omega
  rw [hs]
  clear hs hz
  generalize hera : z / 146097 = era
  have hdoe : 0 ≤ z - era * 146097 ∧ z - era * 146097 < 146097 := by omega
  generalize hdoe_def : z - era * 146097 = doe at hdoe ⊢
  have hz : z = doe + era * 146097 := by omega
  clear hera hdoe_def
  generalize hyoe : (doe - doe / 1460 + doe / 36524 - doe / 146096) / 365 = yoe
  have hy : 0 ≤ yoe ∧ yoe ≤ 399 := by omega
  generalize hmp : (5 * (doe - (365 * yoe + yoe / 4 - yoe / 100)) + 2) / 153 = mp
  rcases (show era ≤ 4 ∨ era = 5 ∨ 6 ≤ era by omega) with h | rfl | h
  · clear hyoe hmp
    split_ifs <;> omega
  · have h21 : 21 ≤ yoe ↔ 7670 ≤ doe := by omega
    have h19 : yoe ≤ 19 ↔ doe < 7305 := by omega
    clear hyoe
    split_ifs <;> omega
  · clear hyoe hmp
    split_ifs <;> omega

example : gmtimeYearMonth 0 = (1970, 1) := by decide
example : gmtimeYearMonth 1593561599 = (2020, 6) := by decide
example : gmtimeYearMonth 1593561600 = (2020, 7) := by decide

/-- `polarize` is a threshold on the event's seconds. -/
theorem polarize_eq (sec : Int) (cache : Option Beam) :
    polarize sec cache = if 1593561600 ≤ sec then
      cache.map fun b ↦ { b with polarizationNormal := some (1, 0, 0) } else cache := by
  have key := gmtime_july_2020_iff sec
  unfold polarize
  generalize gmtimeYearMonth sec = ym at key ⊢
  obtain ⟨year, month⟩ := ym
  exact if_congr key rfl rfl

/-- A beam `beamOf` builds has the polarization normal `(1, 0, 0)` from the threshold on, and
none before. -/
theorem polarizationNormal_of_beamOf {evt : Event D} {s : Option Spectrum} {b : Beam}
    (h : beamOf ps x evt s = some (some b)) :
    b.polarizationNormal =
      if 1593561600 ≤ (ps.eventTime evt).1 then some (1, 0, 0) else none := by
  unfold beamOf at h
  obtain ⟨w, -, hw⟩ := Option.map_eq_some'.1 h
  rw [polarize_eq] at hw
  split_ifs at hw ⊢
  · obtain ⟨b', hb', rfl⟩ := Option.map_eq_some'.1 hw
    obtain ⟨w', -, rfl⟩ := Option.map_eq_some'.1 hb'
    rfl
  · obtain ⟨w', -, rfl⟩ := Option.map_eq_some'.1 hw
    rfl

/-- A beam `_beam(i)` returns on a fresh instance is the one `beamOf` builds from the event at
`i` and some spectrum. -/
theorem beamOf_of_beam_fresh {i : Int} {b : Beam} (h : resultValue (beam ps x i {}) = .ok (some b)) :
    ∃ evt s, lookupEvent ps x i = .ok (some evt) ∧ beamOf ps x evt s = some (some b) := by
  unfold beam at h
  rw [if_neg (by simp)] at h
  dsimp only at h
  rw [getEvent_of_ne ps x (by simp)] at h
  rcases hl : lookupEvent ps x i with e | _ | evt <;> simp only [hl] at h
  · cases h
  · cases h
  rcases hs : getSpectrum ps x i ⟨some i, some evt, some i, none⟩ with ⟨s, c⟩ | ⟨e, c⟩ <;> simp only [hs] at h
  · rcases hb : beamOf ps x evt s with _ | cache <;> simp only [hb, resultValue_ok] at h
    · cases h
    · exact ⟨evt, s, rfl, by rw [hb]; cases h; rfl⟩
  · cases h

/-- On a fresh instance, the beam `get_beam(i)` returns has the polarization normal `(1, 0, 0)`
exactly when the event at `i` is from 2020-07-01 00:00:00 UTC on, and none before. -/
theorem getBeam_polarization (i : Int) (b : Beam)
    (h : resultValue (getBeam ps x i {}) = .ok (some b)) :
    ∃ evt, lookupEvent ps x i = .ok (some evt) ∧
      b.polarizationNormal =
        if 1593561600 ≤ (ps.eventTime evt).1 then some (1, 0, 0) else none := by
  obtain ⟨evt, s, hl, hb⟩ := beamOf_of_beam_fresh ps x h
  exact ⟨evt, hl, polarizationNormal_of_beamOf ps x hb⟩

theorem getBeam_polarization_checked :
    ∃ x, FormatXTC.init rejectingSpectra spectraChecked twoRuns = .ok x ∧
      resultValue (getBeam rejectingSpectra x 0 {}) = .ok (some (Beam.simple 1)) ∧
      ∃ evt, lookupEvent rejectingSpectra x 0 = .ok (some evt) ∧
        (Beam.simple 1).polarizationNormal =
          if 1593561600 ≤ (rejectingSpectra.eventTime evt).1 then some (1, 0, 0) else none :=
  ⟨_, rfl, rfl, getBeam_polarization rejectingSpectra _ 0 _ rfl⟩

end Dxtbx.Format.XTC
