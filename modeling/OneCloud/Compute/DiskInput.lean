import Mathlib.Logic.Basic

/-
This file models the two conversions of `apis/compute/disk.go` between a disk create request
and the server create request that the scheduler takes, and follows a disk request through
both.
-/

namespace OneCloud.Compute

variable {DiskConfig Others : Type} [Inhabited Others]

end OneCloud.Compute
