-- What the source takes from Zephyr: error codes, work items, and the
-- connection objects of the Bluetooth host.
import Mathlib.Tactic

namespace smart_track.zephyr

/-! ## Error codes

A call of the kernel or of the Bluetooth host gives 0 or a negative code. The code
itself is up to the callee, so it is an input of the model. -/

def EACCES : Int := 13
def ENODEV : Int := 19
def EINVAL : Int := 22
def EALREADY : Int := 120

/-! ## Work items -/

/-- A delayable work item: the delay in milliseconds that it waits for, or `none` while it
is not pending. -/
abbrev Delayable := Option Nat

/-- `k_work_schedule` leaves a pending item as it is. -/
def kWorkSchedule (w : Delayable) (ms : Nat) : Delayable := w.or (some ms)

/-- `k_work_reschedule` starts the delay again. -/
def kWorkReschedule (_w : Delayable) (ms : Nat) : Delayable := some ms

def kWorkCancelDelayable (_w : Delayable) : Delayable := none

def K_SECONDS (s : Nat) : Nat := 1000 * s

def K_MINUTES (m : Nat) : Nat := 60000 * m

def K_NO_WAIT : Nat := 0

/-! ## Connections -/

abbrev CONFIG_BT_MAX_CONN : Nat := 3

/-- A connection object of the host, as the callbacks get it. The pool has
`CONFIG_BT_MAX_CONN` of them, and a later link may get an object again. -/
abbrev Conn := Fin CONFIG_BT_MAX_CONN

abbrev CONFIG_BT_ID_MAX : Nat := 3

instance : NeZero CONFIG_BT_MAX_CONN := ⟨by decide⟩

instance : NeZero CONFIG_BT_ID_MAX := ⟨by decide⟩

/-- The identity that `main.c` gives to Fast Pair and FMDN. -/
def APP_BT_ID : Nat := 1

/-- An advertising option that the source sets. -/
inductive AdvOpt
  | conn
  | useIdentity
  deriving DecidableEq, Repr

/-- `struct bt_le_adv_param`. -/
structure AdvParam where
  id : Int
  sid : Nat
  secondary_max_skip : Nat
  options : List AdvOpt
  interval_min : Nat
  interval_max : Nat
  deriving DecidableEq, Repr

end smart_track.zephyr
