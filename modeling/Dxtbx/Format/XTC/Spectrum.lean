import Dxtbx.Format.XTC.Index

/-!
# Spectra

`_spectrum(index)` reads the event at `index` shifted by a nonzero `spectrum_index_offset`, and
returns `None` when the shifted index is below zero.  Nothing guards the other end: a shifted
index at or past `n_images` reaches `_get_event`, which raises.  On an event, the FEE read
converts pixel numbers to eV with `spectrum_eV_offset`, whose default `None` makes it raise
`TypeError`.
-/

namespace Dxtbx.Format.XTC

variable {T D : Type} (ps : Psana D) (x : FormatXTC T D)

/-- The index whose event `_spectrum(index)` reads, or `none` when it returns `None` before
reading one: without `spectrum_eV_per_pixel`, or below zero once shifted. -/
def spectrumIndex (index : Int) : Option Int :=
  if x.params.spectrumEVPerPixel.isNone then none
  else
    match x.params.spectrumIndexOffset with
    | some k => if k ≠ 0 then (if index + k < 0 then none else some (index + k)) else some index
    | none => some index

theorem resultState_spectrumAt (i : Int) (c : Caches D) :
    resultState (spectrumAt ps x i c) =
      if x.params.spectrumEVPerPixel.isNone then c else resultState (getEvent ps x i c) := by
  unfold spectrumAt
  cases x.params.spectrumEVPerPixel with
  | none => rfl
  | some v =>
      dsimp only
      rcases getEvent ps x i c with ⟨_ | evt, _⟩ | ⟨_, _⟩
      · rfl
      · dsimp only
        cases feeSpectrum ps x v evt <;> rfl
      · rfl

/-- `_spectrum` at the index it reads raises what `_get_event` raises there, and otherwise what
the FEE read raises. -/
theorem resultValue_spectrumAt (i : Int) (c : Caches D) :
    resultValue (spectrumAt ps x i c) = x.params.spectrumEVPerPixel.elim (.ok none) fun v ↦
      (resultValue (getEvent ps x i c)).bind fun evt ↦
        evt.elim (.ok none) (feeSpectrum ps x v) := by
  unfold spectrumAt
  cases x.params.spectrumEVPerPixel with
  | none => rfl
  | some v =>
      dsimp only
      rcases getEvent ps x i c with ⟨_ | evt, _⟩ | ⟨_, _⟩
      · rfl
      · dsimp only [resultValue_ok, Except.bind, Option.elim]
        cases feeSpectrum ps x v evt <;> rfl
      · rfl

/-- Without `spectrum_eV_per_pixel`, `_spectrum` reads nothing. -/
theorem spectrumAt_of_isNone (hev : x.params.spectrumEVPerPixel.isNone) (i : Int) :
    spectrumAt ps x i = pure none := by
  funext c
  simp only [spectrumAt, Option.isNone_iff_eq_none.1 hev]
  rfl

theorem spectrum_eq (i : Int) :
    spectrum ps x i = (spectrumIndex x i).elim (pure none) (spectrumAt ps x) := by
  unfold spectrum spectrumIndex
  by_cases hev : x.params.spectrumEVPerPixel.isNone
  · simp only [hev, if_true, Option.elim, spectrumAt_of_isNone ps x hev]
    split <;> (try split_ifs) <;> rfl
  · simp only [hev, Bool.false_eq_true, if_false]
    rcases x.params.spectrumIndexOffset with _ | k <;> dsimp only <;> (try split_ifs) <;> rfl

theorem isNone_of_spectrumIndex {i j : Int} (h : spectrumIndex x i = some j) :
    x.params.spectrumEVPerPixel.isNone = false := by
  cases hev : x.params.spectrumEVPerPixel.isNone
  · rfl
  · simp [spectrumIndex, hev] at h

theorem resultState_spectrum (i : Int) (c : Caches D) :
    resultState (spectrum ps x i c) =
      (spectrumIndex x i).elim c fun j ↦ resultState (getEvent ps x j c) := by
  rw [spectrum_eq]
  rcases hj : spectrumIndex x i with _ | j
  · rfl
  · simp [resultState_spectrumAt, isNone_of_spectrumIndex x hj]

theorem resultValue_spectrum (i : Int) (c : Caches D) :
    resultValue (spectrum ps x i c) =
      (spectrumIndex x i).elim (.ok none) fun j ↦ resultValue (spectrumAt ps x j c) := by
  rw [spectrum_eq]
  cases spectrumIndex x i <;> rfl

/-- `get_spectrum(index)` leaves the caches as `_spectrum(index)` does. -/
theorem resultState_getSpectrum (i : Int) (c : Caches D) :
    resultState (getSpectrum ps x i c) = resultState (spectrum ps x i c) := by
  unfold getSpectrum
  rcases spectrum ps x i c with ⟨_ | _, _⟩ | ⟨_, _⟩
  · split_ifs <;> rfl
  all_goals rfl

/-- `get_spectrum(index)` returns the spectrum of `_spectrum(index)`, and raises `RuntimeError`
in its place when there is none and `spectrum_required` is set. -/
theorem resultValue_getSpectrum (i : Int) (c : Caches D) :
    resultValue (getSpectrum ps x i c) = (resultValue (spectrum ps x i c)).bind fun s ↦
      s.elim (if x.params.spectrumRequired then .error (.runtimeError s!"No spectrum in shot {i}")
        else .ok none) fun s ↦ .ok (some s) := by
  unfold getSpectrum
  rcases spectrum ps x i c with ⟨_ | _, _⟩ | ⟨_, _⟩
  · split_ifs <;> rfl
  all_goals rfl

/-! ## Shifted spectra from a fresh instance -/

theorem spectrumIndex_of_offset (hev : x.params.spectrumEVPerPixel.isSome) {k : Int}
    (hk : x.params.spectrumIndexOffset = some k) (hk0 : k ≠ 0) (i : Int) :
    spectrumIndex x i = if i + k < 0 then none else some (i + k) := by
  simp [spectrumIndex, hk, hk0, Option.isNone_iff_eq_none, Option.isSome_iff_ne_none.1 hev]

/-- From a fresh instance whose index lays out a selection, with `spectrum_eV_per_pixel` set to
`v` and a nonzero offset `k`, `_spectrum(i)` is `None` when `i + k < 0`; when there is an image
`i + k`, it is `None` for an event the lazy filter drops and otherwise whatever the FEE read of the
event returns or raises; and it raises the error of `_get_event` when `i + k` is at or past
`n_images`. -/
theorem spectrum_shifted_fresh {R : Type} {spans : List (Span R)} {sel : R → List (Event D)}
    {err : PyError} (hsel : IndexesSelection ps x spans sel err) {v : Float}
    (hev : x.params.spectrumEVPerPixel = some v) {k : Int}
    (hk : x.params.spectrumIndexOffset = some k) (hk0 : k ≠ 0) (i : Int) :
    resultValue (spectrum ps x i {}) =
      if i + k < 0 then .ok none
      else if i + k < getNumImages x then
        (imageAt (images sel spans) (i + k)).elim (.error err) fun q ↦
          (lazyFilter ps x.params.filter q.2).elim (.ok none) (feeSpectrum ps x v)
      else .error err := by
  rw [resultValue_spectrum, spectrumIndex_of_offset x (by simp [hev]) hk hk0]
  split_ifs with hneg hlt
  · rfl
  · simp only [Option.elim, resultValue_spectrumAt, hev, hsel.getEvent_eq]
    cases imageAt (images sel spans) (i + k) <;> rfl
  · have hnone : imageAt (images sel spans) (i + k) = none :=
      imageAt_eq_none_iff.2 (by rw [← hsel.getNumImages_eq]; omega)
    simp only [Option.elim, resultValue_spectrumAt, hev, hsel.getEvent_eq, hnone]
    rfl

/-- A run with one event. -/
def oneImage : DataSource Nat Nat := ⟨[⟨1, [0], id⟩]⟩

/-- Spectra on, read one image further on. -/
def offsetOne : Params := { spectrumEVPerPixel := some 1, spectrumIndexOffset := some 1 }

theorem spectrum_shifted_fresh_one_image :
    ∃ (pop : Populated Nat Nat) (m : PyDict Int (Span (Run Nat Nat))),
      populateEvents Psana.plain offsetOne oneImage none = .ok pop ∧
      IndexesSelection Psana.plain ⟨offsetOne, pop⟩ (m.items.map Prod.snd)
        (selectedRunEvents Psana.plain {} none) (.indexError "Index is not within bounds") ∧
      offsetOne.spectrumEVPerPixel = some 1 ∧ offsetOne.spectrumIndexOffset = some 1 ∧
      (1 : Int) ≠ 0 ∧ ∀ i : Int,
        resultValue (spectrum Psana.plain ⟨offsetOne, pop⟩ i {}) =
          if i + 1 < 0 then .ok none
          else if i + 1 < getNumImages ⟨offsetOne, pop⟩ then
            (imageAt (images (selectedRunEvents Psana.plain {} none) (m.items.map Prod.snd))
              (i + 1)).elim (.error (.indexError "Index is not within bounds")) fun q ↦
              (lazyFilter Psana.plain {} q.2).elim (.ok none)
                (feeSpectrum Psana.plain ⟨offsetOne, pop⟩ 1)
          else .error (.indexError "Index is not within bounds") := by
  obtain ⟨m, hpop, hlay, -⟩ := populateEvents_idx Psana.plain
    (show offsetOne.mode = .idx from rfl) oneImage none fun _ _ _ h ↦ nomatch h
  refine ⟨_, m, hpop, ?_⟩
  refine (fun hsel ↦ ⟨hsel, rfl, rfl, by decide,
    spectrum_shifted_fresh Psana.plain _ hsel rfl rfl (by decide)⟩) ?_
  exact indexesSelection_of_idx Psana.plain rfl _ hlay rfl rfl

example : ∃ x, FormatXTC.init { Psana.plain with feeTrace := fun _ ↦ .ok (some ([0], [1])) }
      offsetOne oneImage = .ok x ∧
    resultValue
      (spectrum { Psana.plain with feeTrace := fun _ ↦ .ok (some ([0], [1])) } x (-1) {}) =
      .error (.typeError "unsupported operand type(s) for +: \x27float\x27 and \x27NoneType\x27") :=
  ⟨_, rfl, rfl⟩

/-- One image and `spectrum_index_offset = 1`: from a fresh instance `get_spectrum(0)` reads
past the end and raises, `IndexError` in idx mode and `UnboundLocalError` in smd mode. -/
theorem getSpectrum_past_end :
    (∃ x, FormatXTC.init Psana.plain offsetOne oneImage = .ok x ∧ getNumImages x = 1 ∧
      resultValue (getSpectrum Psana.plain x 0 {}) =
        .error (.indexError "Index is not within bounds")) ∧
    ∃ x, FormatXTC.init Psana.plain { offsetOne with mode := .smd } oneImage = .ok x ∧
      getNumImages x = 1 ∧
      resultValue (getSpectrum Psana.plain x 0 {}) = .error (.unboundLocal "evt") := by
  have hkeys : sortedBy id (groupEvents Psana.plain ({ offsetOne with mode := .smd } : Params).filter
      oneImage.events PyDict.empty).keys = [1] := by
    rw [show (groupEvents Psana.plain ({ offsetOne with mode := .smd } : Params).filter
      oneImage.events PyDict.empty).keys = [1] from rfl]
    simp [sortedBy]
  refine ⟨⟨_, rfl, rfl, rfl⟩, _, rfl, ?_, ?_⟩ <;> simp only [hkeys] <;> rfl

end Dxtbx.Format.XTC
