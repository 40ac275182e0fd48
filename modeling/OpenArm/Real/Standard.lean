/-
  OpenArm.Real.Standard — one ideal arm, and the moves that connect it.

  A left arm over ℚ whose model library reaches every pose and reports no
  collision, with a calibration that maps raw positions to themselves:
  concrete runs in the other files are schedules on it.
-/
import OpenArm.Real.System

namespace OpenArm.Real

open OpenArm.Lib OpenArm.Control OpenArm.Model

/-! ## §1. Setting. -/

/-- Every pose is within limits, is reached and is free of collisions. -/
def freeModel : ArmModel ℚ where
  limits := fun _ _ => some (-4, 4)
  forward := fun _ q => some ![q 0, q 1, q 2]
  inverse := fun _ _ q => some { q, positionErrorM := 0, collisionChecked := false }
  collision := fun _ _ _ =>
    { ok := true
      report :=
        { clear := true, violation := 0, side := 0, segmentA := 0, segmentB := 0
          minimumClearanceM := 1, terminalPairActive := false, terminalPairClearanceM := 0
          tcpSeparationM := 0, clawContactActive := false, clawHandGapM := 0
          minimumOtherClawGapM := 0 } }

/-- Only the left arm is active, raw and model positions agree, and the codec
    accepts every frame. -/
def leftArm : Setting ℚ where
  model := freeModel
  sides := ⟨true, false, rfl⟩
  interfaceForSide := fun side => if side = 0 then "can1" else "can0"
  calibrationLoaded := true
  calibrationDetail := ""
  calibration := fun _ _ => ⟨false, 0, 0⟩
  mitEncodes := fun _ _ _ _ => true
  gripperMoveEncodes := fun _ _ _ _ => true
  posForceEncodes := fun _ => true
  render := fun _ => ""

/-- Every callback accepts, and every call of the system succeeds. -/
def willing : Op ℚ → Choice
  | .openSocket _ => .socket none
  | .sendDisable _ | .sendRefresh _ | .sendEnable _ | .sendHold _ _ => .written fun _ => true
  | .saveGripper _ => .saved none
  | _ => .flag true

/-- … but no setpoint is written. -/
def mute : Op ℚ → Choice
  | .sendHold _ _ => .written fun _ => false
  | o => willing o

/-- The session before its first call, with two callers. -/
def passive : Sessions ℚ (Fin 2) where
  shared := Session.initial leftArm none 1 fun _ =>
    { outbound := [], inbound := [], enabled := fun _ => false }
  thread := fun t => match t with
    | .worker => some workerMain
    | .caller _ => none

theorem passive_init : (sessionSystem (Fin 2) leftArm).init passive :=
  ⟨⟨none, 1, _, rfl⟩, rfl, fun _ => rfl⟩

/-! ## §2. Moves. -/

/-- The moves of its schedules. -/
abbrev SessionMove :=
  Machine.Move (sessionSig ℚ) (Thread (Fin 2)) Choice (Request ℚ) (Event ℚ)

/-- The next steps of a thread. -/
def go (t : Thread (Fin 2)) (steps : Nat) : SessionMove := .go t steps willing

/-- Whole calls: the request and the steps it takes. -/
def call (c : Fin 2) (request : Request ℚ) (steps : Nat) : List SessionMove :=
  [.start (.caller c) request, go (.caller c) steps]

/-- The motors serve these frames and reply, all at the zero position. -/
def served (frames : Nat) : List SessionMove :=
  List.replicate frames (.event (.serve 0 true (some ⟨0, 0, 0, none⟩)))

/-- The motors serve these frames, and the replies are lost. -/
def unanswered (frames : Nat) : List SessionMove :=
  List.replicate frames (.event (.serve 0 true none))

/-- `connect_and_enable` up to the first feedback of all eight motors. -/
def connectSamples : List SessionMove :=
  [.start (.caller 0) .connectAndEnable, go (.caller 0) 7] ++ served 8 ++ [go (.caller 0) 35]

/-- … its nine register writes, each confirmed … -/
def connectRegisters : List SessionMove :=
  (List.replicate 9 ([go (.caller 0) 1] ++ served 1 ++ [go (.caller 0) 5])).flatten

/-- … and the enables, after which it is armed. -/
def connectEnables : List SessionMove :=
  [go (.caller 0) 2] ++ unanswered 8 ++ [go (.caller 0) 1] ++ unanswered 8 ++ [go (.caller 0) 1]

/-- One step of the gain ramp. -/
def connectRamp : List SessionMove :=
  [go (.caller 0) 3] ++ served 8 ++ [go (.caller 0) 38]

/-- `connect_and_enable` up to these many steps of its gain ramp. -/
def connecting (ramps : Nat) : List SessionMove :=
  connectSamples ++ connectRegisters ++ connectEnables ++
    (List.replicate ramps connectRamp).flatten

/-- Steps of the gain ramp that find fresh samples and receive no reply. -/
def quietRamp (ramps : Nat) : List SessionMove := [go (.caller 0) (11 * ramps)]

/-- `connect_and_enable`, which returns true. -/
def connected : List SessionMove := connecting 1 ++ quietRamp 49 ++ [go (.caller 0) 3]

/-- A command of the left arm's first joint, with terminal callback 7. -/
def jointCommand (owner : String) (target : ℚ) : SessionCommand ℚ where
  kind := .joint
  owner := owner
  side := 0
  joint := 0
  targetRad := target
  leftTcpM := ![0, 0, 0]
  rightTcpM := ![0, 0, 0]
  targetM := ![0, 0, 0]
  stopDistanceM := 0
  contactTorqueFraction := 0
  minimumProgressM := 0
  motionLimitScale := 1
  preservedSide := -1
  gripperSideMask := 0
  gripperOpeningM := 0
  gripperSpeedMS := 0
  gripperTorqueLimitNm := 0
  gripperStopOnContact := false
  feedback := none
  terminal := some 7

end OpenArm.Real
