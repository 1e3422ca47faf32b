import Dxtbx.Format.XTC.Populate

/-!
# The reader's methods

A `FormatXTC` instance after `__init__` holds its locator parameters and the index
`populate_events` built.  Its methods read events, spectra and beams through two one-entry
caches: `current_index` and `current_event` for `_get_event`, `_beam_index` and `_beam_cache` for
`_beam`.  Python keeps the attribute writes a method made before it raised, so the methods are
`EStateM PyError (Caches D)` programs, written as explicit state passing.
-/

namespace Dxtbx.Format.XTC

variable {T D : Type}

/-- `get_run_from_index`: the run of the first slice of `run_mapping` that holds `index`. -/
def getRunFromIndex {R : Type} : List (Span R) → Int → Except PyError R
  | [], _ => .error (.indexError "Index is not within bounds")
  | s :: rest, index =>
      if s.start ≤ index ∧ index < s.stop then .ok s.run else getRunFromIndex rest index

/-- The smd loop of `_get_event`: every slice of `run_mapping` that holds `index` assigns `evt`,
which stays unbound (`none`) when no slice does. -/
def smdEvent (index : Int) : List (SmdSpan D) → Option (Event D) → Except PyError (Option (Event D))
  | [], evt => .ok evt
  | s :: rest, evt =>
      if s.start ≤ index ∧ index < s.stop then
        match getItem s.events (index - s.start) with
        | .ok e => smdEvent index rest (some e)
        | .error err => .error err
      else smdEvent index rest evt

/-- A `FormatXTC` instance after `__init__`: its locator parameters and what `populate_events`
set. -/
structure FormatXTC (T D : Type) where
  params : Params
  populated : Populated T D

/-- `__init__` after the parameters are read: `_load_hit_indices`, then `populate_events`. -/
def FormatXTC.init (ps : Psana D) (p : Params) (ds : DataSource T D) :
    Except PyError (FormatXTC T D) :=
  match loadHitIndices p with
  | .error e => .error e
  | .ok hitInds =>
      match populateEvents ps p ds hitInds with
      | .ok pop => .ok ⟨p, pop⟩
      | .error e => .error e

theorem init_of_populateEvents {ps : Psana D} {p : Params} {ds : DataSource T D}
    {hitInds : Option (PyDict Int (List Int))} {pop : Populated T D}
    (hload : loadHitIndices p = .ok hitInds) (hpop : populateEvents ps p ds hitInds = .ok pop) :
    FormatXTC.init ps p ds = .ok ⟨p, pop⟩ := by
  simp only [FormatXTC.init, hload, hpop]

/-- `get_num_images` -/
def getNumImages (x : FormatXTC T D) : Nat := x.populated.nImages

/-- The end of `_get_event`: `None` for an event `filter_event` rejects, when the filter has
codes and `pre_filter` is not set. -/
def lazyFilter (ps : Psana D) (f : FilterParams) (evt : Event D) : Option (Event D) :=
  if f.active && !f.preFilter && !filterEvent ps f evt then none else some evt

/-- The else-branch of `_get_event`: the event at `index`, read without the cache. -/
def lookupEvent (ps : Psana D) (x : FormatXTC T D) (index : Int) :
    Except PyError (Option (Event D)) :=
  let evt : Except PyError (Event D) :=
    match x.populated.runMapping with
    | .idx m =>
        match getRunFromIndex (m.items.map Prod.snd) index with
        | .error e => .error e
        | .ok run =>
            match getItem x.populated.times index with
            | .ok t => .ok (run.event t)
            | .error e => .error e
    | .smd m =>
        match smdEvent index (m.items.map Prod.snd) none with
        | .ok (some e) => .ok e
        | .ok none => .error (.unboundLocal "evt")
        | .error e => .error e
  match evt with
  | .ok e => .ok (lazyFilter ps x.params.filter e)
  | .error err => .error err

/-- The attributes the methods update: the cache of `_get_event` and the cache of `_beam`. -/
structure Caches (D : Type) where
  currentIndex : Option Int := none
  currentEvent : Option (Event D) := none
  beamIndex : Option Int := none
  beamCache : Option Beam := none

/-! ## Wavelength and polarization -/

/-- The wavelength `_beam` takes from the event when there is no spectrum: `evt_wavelength`, or
`wavelength_fallback` when that is missing or not positive; a positive one is then scaled by
`wavelength_scale` and shifted by `wavelength_offset`. -/
def eventWavelength (p : Params) (evtWavelength : Option Float) : Option Float :=
  let wavelength :=
    match evtWavelength with
    | some w => if w ≤ 0 then p.wavelengthFallback else some w
    | none => p.wavelengthFallback
  match wavelength with
  | some w =>
      if w > 0 then
        let w := match p.wavelengthScale with
          | some scale => w * scale
          | none => w
        some (match p.wavelengthOffset with
          | some offset => w + offset
          | none => w)
      else some w
  | none => none

/-- `time.gmtime(s).tm_year` and `.tm_mon` for `s` seconds after the epoch, by days from the
civil calendar's March-based eras. -/
def gmtimeYearMonth (s : Int) : Int × Int :=
  let z := s / 86400 + 719468
  let era := z / 146097
  let doe := z - era * 146097
  let yoe := (doe - doe / 1460 + doe / 36524 - doe / 146096) / 365
  let doy := doe - (365 * yoe + yoe / 4 - yoe / 100)
  let mp := (5 * doy + 2) / 153
  let month := if mp < 10 then mp + 3 else mp - 9
  (yoe + era * 400 + (if month ≤ 2 then 1 else 0), month)

/-- The end of `_beam`: a beam of an event from July 2020 on gets the polarization normal
`(1, 0, 0)`. -/
def polarize (sec : Int) (cache : Option Beam) : Option Beam :=
  let (year, month) := gmtimeYearMonth sec
  if (year = 2020 ∧ 7 ≤ month) ∨ year > 2020 then
    cache.map fun b ↦ { b with polarizationNormal := some (1, 0, 0) }
  else cache

/-- `spectrum_eV_per_pixel * pixels + spectrum_eV_offset` on the numpy array of pixel numbers:
adding the offset's default `None` raises `TypeError` once there is a pixel to add it to. -/
def pixelEnergies (evPerPixel : Float) (evOffset : Option Float) (pixels : List Float) :
    Except PyError (List Float) :=
  match evOffset, pixels with
  | some offset, pixels => .ok (pixels.map fun px ↦ evPerPixel * px + offset)
  | none, [] => .ok []
  | none, _ :: _ =>
      .error (.typeError "unsupported operand type(s) for +: \x27float\x27 and \x27NoneType\x27")

/-! ## Methods -/

section Methods

variable (ps : Psana D) (x : FormatXTC T D)

/-- `_get_event`: `current_index` is set before the lookup, `current_event` after it. -/
def getEvent (index : Int) : EStateM PyError (Caches D) (Option (Event D)) := fun c ↦
  if c.currentIndex = some index then .ok c.currentEvent c
  else
    let c := { c with currentIndex := some index }
    match lookupEvent ps x index with
    | .ok evt => .ok evt { c with currentEvent := evt }
    | .error e => .error e c

/-- The end of `_spectrum`, once it has an event: the FEE trace, its pixels in eV, and the
spectrum built from them. -/
def feeSpectrum (evPerPixel : Float) (evt : Event D) : Except PyError (Option Spectrum) :=
  match ps.feeTrace evt with
  | .error e => .error e
  | .ok none => .ok none
  | .ok (some (pixels, y)) =>
      (pixelEnergies evPerPixel x.params.spectrumEVOffset pixels).map fun energies ↦
        ps.makeSpectrum energies y

/-- `_spectrum` from its `spectrum_eV_per_pixel` test on, at the index it reads. -/
def spectrumAt (index : Int) : EStateM PyError (Caches D) (Option Spectrum) := fun c ↦
  match x.params.spectrumEVPerPixel with
  | none => .ok none c
  | some evPerPixel =>
      match getEvent ps x index c with
      | .ok none c => .ok none c
      | .ok (some evt) c =>
          match feeSpectrum ps x evPerPixel evt with
          | .ok s => .ok s c
          | .error e => .error e c
      | .error e c => .error e c

/-- `_spectrum`: a nonzero `spectrum_index_offset` shifts the index, and a shifted index below
zero gives `None`. -/
def spectrum (index : Int) : EStateM PyError (Caches D) (Option Spectrum) :=
  match x.params.spectrumIndexOffset with
  | some k =>
      if k ≠ 0 then
        if index + k < 0 then pure none else spectrumAt ps x (index + k)
      else spectrumAt ps x index
  | none => spectrumAt ps x index

/-- `get_spectrum` -/
def getSpectrum (index : Int) : EStateM PyError (Caches D) (Option Spectrum) := fun c ↦
  match spectrum ps x index c with
  | .ok none c =>
      if x.params.spectrumRequired then .error (.runtimeError s!"No spectrum in shot {index}") c
      else .ok none c
  | .ok (some s) c => .ok (some s) c
  | .error e c => .error e c

/-- What `_beam` stores in `_beam_cache` for an event and the spectrum `get_spectrum` gave it;
`none` when `check_spectrum` rejects the spectrum and `_beam` returns before storing. -/
def beamOf (evt : Event D) (spectrum : Option Spectrum) : Option (Option Beam) :=
  let wavelength : Option (Option Float) :=
    match spectrum with
    | some s =>
        if x.params.checkSpectrumEnable && !ps.checkSpectrum s then none
        else some (some (ps.weightedWavelength s))
    | none => some (eventWavelength x.params (ps.evtWavelength evt))
  wavelength.map fun w ↦ polarize (ps.eventTime evt).1 (w.map Beam.simple)

/-- `_beam`: `_beam_index` is set before the event and spectrum are read, `_beam_cache` only
once the beam is built. -/
def beam (index : Int) : EStateM PyError (Caches D) (Option Beam) := fun c ↦
  if c.beamIndex = some index then .ok c.beamCache c
  else
    let c := { c with beamIndex := some index }
    match getEvent ps x index c with
    | .error e c => .error e c
    | .ok none c => .ok none { c with beamCache := none }
    | .ok (some evt) c =>
        match getSpectrum ps x index c with
        | .error e c => .error e c
        | .ok spectrum c =>
            match beamOf ps x evt spectrum with
            | none => .ok none c
            | some cache => .ok cache { c with beamCache := cache }

/-- `get_beam` -/
def getBeam (index : Int) : EStateM PyError (Caches D) (Option Beam) := beam ps x index

/-- `get_psana_timestamp` -/
def getPsanaTimestamp (index : Int) : EStateM PyError (Caches D) (Option String) := fun c ↦
  match getEvent ps x index c with
  | .ok none c => .ok none c
  | .ok (some evt) c => .ok (some (ps.timestamp (ps.eventTime evt))) c
  | .error e c => .error e c

theorem getEvent_of_eq {c : Caches D} {i : Int} (h : c.currentIndex = some i) :
    getEvent ps x i c = .ok c.currentEvent c := by
  simp [getEvent, h]

theorem getEvent_of_ne {c : Caches D} {i : Int} (h : c.currentIndex ≠ some i) :
    getEvent ps x i c =
      match lookupEvent ps x i with
      | .ok evt => .ok evt { c with currentIndex := some i, currentEvent := evt }
      | .error e => .error e { c with currentIndex := some i } := by
  simp only [getEvent, if_neg h]

theorem beam_of_eq {c : Caches D} {i : Int} (h : c.beamIndex = some i) :
    beam ps x i c = .ok c.beamCache c := by
  simp [beam, h]

/-- `_beam(i)` on another `_beam_index` leaves the caches `_get_event(i)` leaves, or those
`get_spectrum(i)` leaves after it, from `_beam_index` set to `i`, with `_beam_cache` set to some
beam. -/
theorem resultState_beam_of_ne {c : Caches D} {i : Int} (hb : c.beamIndex ≠ some i) :
    ∃ b, resultState (beam ps x i c) =
        { resultState (getEvent ps x i { c with beamIndex := some i }) with beamCache := b } ∨
      resultState (beam ps x i c) = { resultState (getSpectrum ps x i
        (resultState (getEvent ps x i { c with beamIndex := some i }))) with beamCache := b } := by
  unfold beam
  rw [if_neg hb]
  dsimp only
  rcases getEvent ps x i { c with beamIndex := some i } with ⟨_ | evt, c2⟩ | ⟨e, c2⟩ <;>
    simp only [resultState_ok, resultState_error]
  · exact ⟨none, .inl rfl⟩
  · rcases getSpectrum ps x i c2 with ⟨s, c3⟩ | ⟨e, c3⟩ <;>
      simp only [resultState_ok, resultState_error]
    · cases beamOf ps x evt s with
      | none => exact ⟨c3.beamCache, .inr rfl⟩
      | some b => exact ⟨b, .inr rfl⟩
    · exact ⟨c3.beamCache, .inr rfl⟩
  · exact ⟨c2.beamCache, .inl rfl⟩

end Methods

/-! ## Lookups in a laid-out index -/

/-- Over slices that lay out an index from `a`, `get_run_from_index(i)` is the run of image
`i - a`, and raises `IndexError` when there is none. -/
theorem getRunFromIndex_of_laysOut {R α : Type} (sel : R → List α) {spans : List (Span R)}
    {a : Nat} (h : LaysOut sel spans a) (i : Int) :
    getRunFromIndex spans i = (imageAt (images sel spans) (i - a)).elim
      (.error (.indexError "Index is not within bounds")) fun p ↦ .ok p.1 := by
  induction spans generalizing a with
  | nil => simp [getRunFromIndex, imageAt]
  | cons s ss ih =>
      obtain ⟨hstart, hstop, hrest⟩ := h
      rw [getRunFromIndex, ih hrest, images_cons, imageAt_append, List.length_map]
      by_cases hin : s.start ≤ i ∧ i < s.stop
      · obtain ⟨n, hn⟩ : ∃ n : Nat, i - a = n := ⟨(i - a).toNat, by omega⟩
        have hlt : n < (sel s.run).length := by omega
        rw [if_pos hin, if_pos (by omega)]
        simp [imageAt, hn, hlt]
      · rw [if_neg hin]
        by_cases hlow : i < a
        · rw [if_pos (by omega), imageAt_eq_none_iff.2 (by omega),
            imageAt_eq_none_iff.2 (by omega)]
        · rw [if_neg (by omega)]
          congr 2
          omega

/-- Over smd slices that lay out an index from `a`, the smd loop of `_get_event` assigns the
event of image `i - a`, and leaves `evt` as it was when there is none. -/
theorem smdEvent_of_laysOut (sel : Int → List (Event D)) {spans : List (SmdSpan D)} {a : Nat}
    (h : LaysOut sel (spans.map (·.toSpan)) a) (hev : ∀ s ∈ spans, s.events = sel s.run)
    (i : Int) (evt : Option (Event D)) :
    smdEvent i spans evt =
      .ok ((imageAt (images sel (spans.map (·.toSpan))) (i - a)).elim evt fun p ↦ some p.2) := by
  induction spans generalizing a evt with
  | nil => simp [smdEvent, imageAt]
  | cons s ss ih =>
      obtain ⟨hstart, hstop, hrest⟩ := h
      simp only at hstart hstop hrest
      simp only [List.mem_cons, forall_eq_or_imp] at hev
      simp only [List.map_cons, images_cons]
      rw [smdEvent, imageAt_append, List.length_map]
      by_cases hin : s.start ≤ i ∧ i < s.stop
      · obtain ⟨n, hn⟩ : ∃ n : Nat, i - a = n := ⟨(i - a).toNat, by omega⟩
        have hlt : n < (sel s.run).length := by omega
        have hget : getItem s.events (i - s.start) = .ok (sel s.run)[n] := by
          rw [hev.1, show i - s.start = n by omega, getItem_of_lt hlt]
        simp only [if_pos hin, hget]
        rw [ih hrest hev.2, if_pos (by omega), imageAt_eq_none_iff.2 (by omega)]
        simp [imageAt, hn, hlt]
      · rw [if_neg hin, ih hrest hev.2]
        by_cases hlow : i < a
        · rw [if_pos (by omega), imageAt_eq_none_iff.2 (by omega),
            imageAt_eq_none_iff.2 (by omega)]
        · rw [if_neg (by omega)]
          congr 3
          omega

/-! ## Call sequences -/

/-- A call a caller makes on the instance. -/
inductive Call
  | getEvent (index : Int)
  | getSpectrum (index : Int)
  | getBeam (index : Int)
  | getPsanaTimestamp (index : Int)

/-- The caches a call leaves, whether it returned or raised. -/
def callStep (ps : Psana D) (x : FormatXTC T D) (call : Call) (c : Caches D) : Caches D :=
  match call with
  | .getEvent i => resultState (getEvent ps x i c)
  | .getSpectrum i => resultState (getSpectrum ps x i c)
  | .getBeam i => resultState (getBeam ps x i c)
  | .getPsanaTimestamp i => resultState (getPsanaTimestamp ps x i c)

/-- The caches after a sequence of calls. -/
def afterCalls (ps : Psana D) (x : FormatXTC T D) : List Call → Caches D → Caches D
  | [], c => c
  | call :: calls, c => afterCalls ps x calls (callStep ps x call c)

end Dxtbx.Format.XTC
