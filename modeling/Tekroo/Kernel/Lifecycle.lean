import Tekroo.Kernel.Types

namespace Tekroo.Kernel

/-! # Lifecycle of stories and tasks -/

inductive LifecycleAction where
  | authorize | beginPlanning | markReady | activate | complete | accept | block | unblock
  | reopen | close
deriving DecidableEq

inductive LifecycleModel where
  | story | task
deriving DecidableEq

structure LifecycleState where
  phase : Phase
  condition : Condition
  lifecycleEpoch : Nat
  rejected : Option String := none

def lifecycleTransition (model : LifecycleModel) (phase : Phase) (action : LifecycleAction) :
    Option Phase :=
  match model, phase, action with
  | .story, .draft, .authorize => some .ready
  | .story, .ready, .beginPlanning => some .planning
  | .story, .planning, .activate => some .active
  | .story, .active, .complete => some .completed
  | .story, .completed, .accept => some .accepted
  | .task, .planned, .markReady => some .ready
  | .task, .ready, .activate => some .active
  | .task, .active, .complete => some .completed
  | _, _, _ => none

def applyLifecycleAction (model : LifecycleModel) (state : LifecycleState)
    (action : LifecycleAction) : Option LifecycleState :=
  match action with
  | .block =>
    if state.condition != .runnable || state.phase == .closed then none
    else some { state with condition := .blocked }
  | .unblock =>
    if state.condition != .blocked || state.phase == .closed then none
    else some { state with condition := .runnable }
  | .reopen =>
    if (model == .story && (state.phase == .completed || state.phase == .accepted)) ||
        (model == .task && state.phase == .completed) then
      some { state with phase := .active, lifecycleEpoch := state.lifecycleEpoch + 1 }
    else none
  | .close =>
    if state.phase == .closed then none else some { state with phase := .closed }
  | action =>
    (lifecycleTransition model state.phase action).map fun phase => { state with phase }

/-- `ApplyLifecycleActions` stops at the first action that is rejected. -/
def applyLifecycleActions (model : LifecycleModel) (state : LifecycleState) :
    List LifecycleAction → LifecycleState
  | [] => { state with rejected := none }
  | action :: rest =>
    match applyLifecycleAction model state action with
    | none => { state with rejected := some "REJECTED_POLICY" }
    | some next => applyLifecycleActions model next rest

def commandLifecycleAction : CommandType → Option LifecycleAction
  | .storyAuthorize => some .authorize
  | .storyBeginPlanning => some .beginPlanning
  | .storyActivate | .taskActivate => some .activate
  | .storyRequestCompletion | .taskRequestCompletion => some .complete
  | .storyRequestAcceptance => some .accept
  | .taskMarkReady => some .markReady
  | .workBlock => some .block
  | .workUnblock => some .unblock
  | .workReopen => some .reopen
  | .workClose => some .close
  | _ => none

def eventLifecycleAction : EventType → Option LifecycleAction
  | .storyAuthorized => some .authorize
  | .storyPlanningStarted => some .beginPlanning
  | .storyActivated | .taskActivated => some .activate
  | .storyCompleted | .taskCompleted => some .complete
  | .storyAccepted => some .accept
  | .taskReadied => some .markReady
  | .workBlocked => some .block
  | .workUnblocked => some .unblock
  | .workReopened => some .reopen
  | .workClosed => some .close
  | _ => none

def terminalPhase (phase : Phase) : Bool :=
  phase == .completed || phase == .accepted || phase == .closed

def terminalCommandProhibited (commandType : CommandType) (phase : Phase) : Bool :=
  terminalPhase phase &&
    match commandType with
    | .workReopen | .workCreateSuccessor | .recordCorrect => false
    | .storyRequestAcceptance | .storyApproveRelease => phase != .completed
    | _ => true

end Tekroo.Kernel
