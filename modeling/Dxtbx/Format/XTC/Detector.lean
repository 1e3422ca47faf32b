import Dxtbx.Format.XTC.Populate

/-!
# The detector cache

`_get_psana_detector(run)` builds `psana.Detector(detector_address[0], run.env())` the first
time it is asked for a run number, after asserting that the locator names exactly one detector
address, and keeps it in `_cached_psana_detectors` under that number.  Over the runs of one
data source, whose numbers are distinct, the cache cannot be seen: after any sequence of calls,
each call returns what it returns on a fresh instance.
-/

namespace Dxtbx.Format.XTC

variable {T D Det : Type}

/-- `_get_psana_detector(run)`, where `newDetector address run` stands for
`psana.Detector(address, run.env())`. -/
def getPsanaDetector (detectorAddress : List String) (newDetector : String → Run T D → Det)
    (run : Run T D) : EStateM PyError (PyDict Int Det) Det := fun cache ↦
  match cache.get? run.run with
  | some det => .ok det cache
  | none =>
      match detectorAddress with
      | [address] =>
          let det := newDetector address run
          .ok det (cache.insert run.run det)
      | _ => .error .assertionError cache

/-- `_cached_psana_detectors` after `_get_psana_detector` on each of `runs` in turn, whether
each call returned or raised. -/
def detectorsAfter (detectorAddress : List String) (newDetector : String → Run T D → Det) :
    List (Run T D) → PyDict Int Det → PyDict Int Det
  | [], cache => cache
  | run :: runs, cache =>
      detectorsAfter detectorAddress newDetector runs
        (resultState (getPsanaDetector detectorAddress newDetector run cache))

section Sound

variable (ds : DataSource T D) (detectorAddress : List String)
  (newDetector : String → Run T D → Det)

/-- Every detector of the cache is the one built for the run of `ds` with its number. -/
def DetectorsSound (cache : PyDict Int Det) : Prop :=
  ∀ k det, cache.get? k = some det → ∃ address, detectorAddress = [address] ∧
    ∃ r ∈ ds.runs, r.run = k ∧ det = newDetector address r

variable {ds detectorAddress newDetector} {cache : PyDict Int Det} {run : Run T D}

theorem detectorsSound_getPsanaDetector (hc : DetectorsSound ds detectorAddress newDetector cache)
    (hrun : run ∈ ds.runs) :
    DetectorsSound ds detectorAddress newDetector
      (resultState (getPsanaDetector detectorAddress newDetector run cache)) := by
  unfold getPsanaDetector
  split
  · exact hc
  · split
    · intro k det hk
      rw [resultState_ok, PyDict.get?_insert] at hk
      split_ifs at hk with hkr
      · exact ⟨_, rfl, run, hrun, hkr, (Option.some.inj hk).symm⟩
      · exact hc k det hk
    · exact hc

theorem detectorsSound_detectorsAfter (runs : List (Run T D)) (hruns : ∀ r ∈ runs, r ∈ ds.runs)
    (hc : DetectorsSound ds detectorAddress newDetector cache) :
    DetectorsSound ds detectorAddress newDetector
      (detectorsAfter detectorAddress newDetector runs cache) := by
  induction runs generalizing cache with
  | nil => exact hc
  | cons r rs ih =>
      simp only [List.mem_cons, forall_eq_or_imp] at hruns
      exact ih hruns.2 (detectorsSound_getPsanaDetector hc hruns.1)

/-- From a sound cache, over a data source with distinct run numbers, `_get_psana_detector`
returns what it returns on an empty cache. -/
theorem getPsanaDetector_of_sound (hnodup : (ds.runs.map Run.run).Nodup)
    (hc : DetectorsSound ds detectorAddress newDetector cache) (hrun : run ∈ ds.runs) :
    resultValue (getPsanaDetector detectorAddress newDetector run cache) =
      resultValue (getPsanaDetector detectorAddress newDetector run .empty) := by
  unfold getPsanaDetector
  cases hk : cache.get? run.run with
  | none =>
      simp only [PyDict.get?_empty]
      split <;> rfl
  | some det =>
      obtain ⟨address, rfl, r, hr, hrr, rfl⟩ := hc _ _ hk
      rw [List.inj_on_of_nodup_map hnodup hr hrun hrr]
      rfl

end Sound

/-- Over the runs of a data source with distinct run numbers, after any sequence of
`_get_psana_detector` calls on a fresh instance, `_get_psana_detector(run)` returns
`psana.Detector(address, run.env())` when the locator names exactly one detector address, and
raises `AssertionError` otherwise. -/
theorem getPsanaDetector_after_calls (ds : DataSource T D) (detectorAddress : List String)
    (newDetector : String → Run T D → Det) (hnodup : (ds.runs.map Run.run).Nodup)
    (calls : List (Run T D)) (hcalls : ∀ r ∈ calls, r ∈ ds.runs) {run : Run T D}
    (hrun : run ∈ ds.runs) :
    resultValue (getPsanaDetector detectorAddress newDetector run
        (detectorsAfter detectorAddress newDetector calls .empty)) =
      match detectorAddress with
      | [address] => .ok (newDetector address run)
      | _ => .error .assertionError := by
  rw [getPsanaDetector_of_sound hnodup
    (detectorsSound_detectorsAfter calls hcalls fun _ _ h ↦ Option.noConfusion h) hrun]
  simp only [getPsanaDetector, PyDict.get?_empty]
  split <;> rfl

theorem getPsanaDetector_after_calls_two_runs :
    (twoRuns.runs.map Run.run).Nodup ∧ (∀ r ∈ twoRuns.runs, r ∈ twoRuns.runs) ∧
      ⟨1, [0, 1], id⟩ ∈ twoRuns.runs ∧
      resultValue (getPsanaDetector ["cspad"] (fun a (r : Run Nat Nat) ↦ (a, r.run))
          ⟨1, [0, 1], id⟩
          (detectorsAfter ["cspad"] (fun a r ↦ (a, r.run)) twoRuns.runs .empty)) =
        .ok ("cspad", 1) :=
  ⟨by decide, fun _ h ↦ h, List.mem_cons_self _ _,
    getPsanaDetector_after_calls twoRuns ["cspad"] _ (by decide) twoRuns.runs (fun _ h ↦ h)
      (List.mem_cons_self _ _)⟩

end Dxtbx.Format.XTC
