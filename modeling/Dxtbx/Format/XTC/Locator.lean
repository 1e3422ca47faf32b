import Dxtbx.Format.XTC.Reader

/-!
# From a locator file to an instance

`understand` decides whether dxtbx opens a locator file with this class; `__init__` then reads
the file again, strictly this time, asserts the mode, opens the data source and builds the index.
On a file that passes all of these, `__init__` builds what `_load_hit_indices` and
`populate_events` build from the data source, so the results about `FormatXTC.init` hold of it.
-/

namespace Dxtbx.Format.XTC

variable {T D : Type}

/-- The locator parameters `_get_datasource` reads, and `params`, those the reader's methods
read, whose `mode` `__init__` sets from the string `mode` once it has asserted it. -/
structure Locator where
  experiment : Option String := none
  run : List Int := []
  mode : Option String := some "idx"
  dataSource : Option String := none
  useFfb : Bool := false
  params : Params := {}

/-- The assertion of `__init__` on `mode`: `idx` or `smd`. -/
def Locator.readMode (l : Locator) : Option Mode :=
  match l.mode with
  | some "idx" => some .idx
  | some "smd" => some .smd
  | _ => none

/-- `params_from_phil(master_phil, user_phil, strict)`.  `phil` is what parsing the file and
fetching it against the locator scope give, the extracted parameters and the paths of the unused
definitions, or `none` when that raised. -/
def paramsFromPhil (phil : Option (Locator × List String)) (strict : Bool) : Option Locator :=
  match phil with
  | none => none
  | some (l, unused) => if unused.length > 0 && strict then none else some l

/-- The psana data-source string `_get_datasource` builds from an experiment and its runs. -/
def datasourceString (experiment : String) (run : List Int) (mode : String) (useFfb : Bool) :
    String :=
  let runs := String.intercalate "," (run.map toString)
  let img := s!"exp={experiment}:run={runs}:{mode}"
  if useFfb then
    let head := experiment.take 3
    img ++ s!":dir=/reg/d/ffb/{head}/{experiment}/xtc"
  else img

/-- `_get_datasource`: `psana.DataSource(img)`, here `openSource img`, or `none` for the `False`
it returns when the locator names no data source and lacks an experiment, runs or a mode. -/
def getDatasource (openSource : String → Except PyError (DataSource T D)) (l : Locator) :
    Except PyError (Option (DataSource T D)) :=
  match l.dataSource with
  | some img => (openSource img).map some
  | none =>
      match l.experiment, l.mode with
      | some experiment, some mode =>
          if l.run.length = 0 then .ok none
          else (openSource (datasourceString experiment l.run mode l.useFfb)).map some
      | _, _ => .ok none

/-- `understand(image_file)`, where `psanaLoaded` says whether `import psana` succeeded. -/
def understand (psanaLoaded : Bool) (openSource : String → Except PyError (DataSource T D))
    (phil : Option (Locator × List String)) : Bool :=
  psanaLoaded &&
    match paramsFromPhil phil false with
    | none => false
    | some l => (getDatasource openSource l).toBool

/-- How `__init__` fails: `IncorrectFormatError` when `understand` rejects the file, or an
exception of the modelled code, among them the `AttributeError` of an attribute of `None` or
`False`. -/
inductive InitError
  | incorrectFormat
  | py (e : PyError)

/-- `__init__(image_file)` from the start: `understand`, the strict read of the locator, the
assertion on `mode`, `_get_datasource`, then `_load_hit_indices` and `populate_events`
(`FormatXTC.init`), which on the `False` of `_get_datasource` raise at `False.runs()`.  The
base-class constructors it calls before reading the locator are taken to return. -/
def initFromLocator (ps : Psana D) (psanaLoaded : Bool)
    (openSource : String → Except PyError (DataSource T D))
    (phil : Option (Locator × List String)) : Except InitError (FormatXTC T D) :=
  if !understand psanaLoaded openSource phil then .error .incorrectFormat
  else
    match paramsFromPhil phil true with
    | none => .error (.py (.attributeError "mode"))
    | some l =>
        match l.readMode with
        | none => .error (.py .assertionError)
        | some mode =>
            let p := { l.params with mode := mode }
            match getDatasource openSource l with
            | .error e => .error (.py e)
            | .ok (some ds) => (FormatXTC.init ps p ds).mapError .py
            | .ok none =>
                match loadHitIndices p with
                | .error e => .error (.py e)
                | .ok _ => .error (.py (.attributeError "runs"))

section Init

variable (ps : Psana D) (openSource : String → Except PyError (DataSource T D))

/-- On a locator that passes `understand` and reads strictly with a valid `mode`, and whose data
source opens, `__init__` builds what `_load_hit_indices` and `populate_events` build from it. -/
theorem initFromLocator_of_source {psanaLoaded : Bool} {phil : Option (Locator × List String)}
    {l : Locator} {mode : Mode} {ds : DataSource T D}
    (hund : understand psanaLoaded openSource phil = true)
    (hphil : paramsFromPhil phil true = some l) (hmode : l.readMode = some mode)
    (hds : getDatasource openSource l = .ok (some ds)) :
    initFromLocator ps psanaLoaded openSource phil =
      (FormatXTC.init ps { l.params with mode := mode } ds).mapError .py := by
  simp [initFromLocator, hund, hphil, hmode, hds]

end Init

end Dxtbx.Format.XTC
