import Dxtbx.Python

/-!
# Data model of the XTC reader

psana hands `FormatXTC` runs and events, and the locator parameters say how the reader indexes
them.  Timestamps and event data are psana's own objects, so their types are parameters: `T` for
the event times `run.times()` lists and `D` for what psana recorded for an event.  What the reader
asks about an event of psana detectors, serialtbx and numpy is bundled in `Psana`.
-/

namespace Dxtbx.Format.XTC

/-- A psana event: `event.run()`, the number of its run, and its data. -/
structure Event (D : Type) where
  run : Int
  data : D
  deriving DecidableEq

/-- A psana run as idx mode reads it: `run.run()`, the event times `run.times()` in stream
order, and the data of the event at each time. -/
structure Run (T D : Type) where
  run : Int
  times : List T
  data : T → D

/-- `run.event(t)` -/
def Run.event {T D : Type} (r : Run T D) (t : T) : Event D := ⟨r.run, r.data t⟩

@[simp] theorem Run.event_run {T D : Type} (r : Run T D) (t : T) : (r.event t).run = r.run := rfl

/-- A psana data source: its runs, in the order `datasource.runs()` yields them. -/
structure DataSource (T D : Type) where
  runs : List (Run T D)

/-- `ds.events()` of smd mode: the events of each run in turn. -/
def DataSource.events {T D : Type} (ds : DataSource T D) : List (Event D) :=
  ds.runs.flatMap fun r ↦ r.times.map r.event

/-- A `dxtbx.model.Spectrum`: energies in eV and their weights. -/
structure Spectrum where
  energies : List Float
  weights : List Float

/-- A `dxtbx.model.Beam` as `_beam` builds it: the wavelength given to `beam_factory.simple`,
and the polarization normal once `_beam` sets one. -/
structure Beam where
  wavelength : Float
  polarizationNormal : Option (Float × Float × Float)

/-- `self._beam_factory.simple(wavelength)` -/
def Beam.simple (wavelength : Float) : Beam := ⟨wavelength, none⟩

/-- What the reader learns about an event from psana detectors, serialtbx and numpy, each as
the function it computes once the locator's addresses and calibration are fixed. -/
structure Psana (D : Type) where
  /-- `psana.Detector(filter.evr_address).eventCodes(evt)` -/
  eventCodes : Event D → List Int
  /-- `evt.get(psana.EventId).time()`: seconds and nanoseconds. -/
  eventTime : Event D → Int × Int
  /-- `serialtbx.detector.xtc.evt_wavelength(evt, delta_k=wavelength_delta_k)` -/
  evtWavelength : Event D → Option Float
  /-- The trace `_spectrum` reads from the FEE spectrometer `self._fee` for an event: its pixel
  numbers and values, from `fee.get(evt).hproj()` less the pedestal, or from `self._fee.image(evt)`
  averaged over its rows (`rotate_and_average` with a rotation angle); `none` when both reads
  raise `AttributeError` or psana gives no detector, and the error of a read that raises
  otherwise, such as the `AttributeError` of `img.shape` on an image of `None`. -/
  feeTrace : Event D → Except PyError (Option (List Float × List Float))
  /-- `Spectrum(flex.double(x), flex.double(y))`, or `none` where it raises `RuntimeError`. -/
  makeSpectrum : List Float → List Float → Option Spectrum
  /-- `check_spectrum(spectrum)`: scipy smoothing, then floating-point height and width tests. -/
  checkSpectrum : Spectrum → Bool
  /-- `spectrum.get_weighted_wavelength()` -/
  weightedWavelength : Spectrum → Float
  /-- `serialtbx.util.time.timestamp((sec, nsec / 1e6))` -/
  timestamp : Int × Int → String

/-- A psana environment whose event data is a number, with no event codes, every event at time
0, and no wavelength or spectrum: the concrete runs of the examples are read through it. -/
def Psana.plain : Psana Nat where
  eventCodes _ := []
  eventTime _ := (0, 0)
  evtWavelength _ := none
  feeTrace _ := .ok none
  makeSpectrum _ _ := none
  checkSpectrum _ := true
  weightedWavelength _ := 0
  timestamp _ := ""

/-! ## Locator parameters -/

/-- `mode`; `__init__` asserts that it is `idx` or `smd`. -/
inductive Mode
  | idx
  | smd
  deriving DecidableEq, Repr

/-- The `filter` scope of the locator. -/
structure FilterParams where
  requiredPresentCodes : List Int := []
  requiredAbsentCodes : List Int := []
  preFilter : Bool := false

/-- The locator parameters the modelled methods read, with the defaults of `locator_str`.
`hitsFile` stands for the lines `r h` of the file `hits_file` names. -/
structure Params where
  hitsFile : Option (List (Int × Int)) := none
  mode : Mode := .idx
  wavelengthOffset : Option Float := none
  wavelengthScale : Option Float := none
  wavelengthFallback : Option Float := none
  spectrumEVPerPixel : Option Float := none
  spectrumEVOffset : Option Float := none
  spectrumRequired : Bool := false
  spectrumIndexOffset : Option Int := none
  checkSpectrumEnable : Bool := false
  filter : FilterParams := {}

/-! ## Event codes -/

/-- `required_present_codes or required_absent_codes`: the filter has a code to test. -/
def FilterParams.active (f : FilterParams) : Bool :=
  !f.requiredPresentCodes.isEmpty || !f.requiredAbsentCodes.isEmpty

/-- `filter_event`: `true` keeps the event. -/
def filterEvent {D : Type} (ps : Psana D) (f : FilterParams) (evt : Event D) : Bool :=
  if !f.active then true
  else
    let codes := ps.eventCodes evt
    if !f.requiredPresentCodes.isEmpty && !f.requiredPresentCodes.all (· ∈ codes) then false
    else if !f.requiredAbsentCodes.isEmpty && f.requiredAbsentCodes.any (· ∈ codes) then false
    else true

/-- An event is kept exactly when it carries every required code and none of the forbidden
ones. -/
theorem filterEvent_eq_true_iff {D : Type} (ps : Psana D) (f : FilterParams) (evt : Event D) :
    filterEvent ps f evt = true ↔
      (∀ c ∈ f.requiredPresentCodes, c ∈ ps.eventCodes evt) ∧
        ∀ c ∈ f.requiredAbsentCodes, c ∉ ps.eventCodes evt := by
  rcases f with ⟨_ | ⟨p, ps'⟩, _ | ⟨a, as⟩, _⟩ <;>
    simp [filterEvent, FilterParams.active, List.all_eq_true, List.any_eq_true]

end Dxtbx.Format.XTC
