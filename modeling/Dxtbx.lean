import Dxtbx.Python
import Dxtbx.Format.XTC.Basic
import Dxtbx.Format.XTC.HitIndices
import Dxtbx.Format.XTC.Populate
import Dxtbx.Format.XTC.Reader
import Dxtbx.Format.XTC.Index
import Dxtbx.Format.XTC.Modes
import Dxtbx.Format.XTC.Init
import Dxtbx.Format.XTC.Spectrum
import Dxtbx.Format.XTC.EventCache
import Dxtbx.Format.XTC.BeamCache
import Dxtbx.Format.XTC.PreFilter
import Dxtbx.Format.XTC.Polarization
import Dxtbx.Format.XTC.Locator
import Dxtbx.Format.XTC.Detector
