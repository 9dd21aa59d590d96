import Launchpad.Proofs.Launch.Faults
import Launchpad.Proofs.Supervision.Ending

/-!
Requests to nodes to end can fail, for every kind of node, but they never end the program.
-/

namespace Launchpad.Launch

open Stop (IsFault Broad)

variable {P : Stop → Prop}

@[grind ←]
lemma stops_now : Stops P now := by
  unfold now
  grind

@[grind ←]
lemma stops_waitRounds (timeout : Value) : Stops P (waitRounds timeout) := by
  unfold waitRounds
  grind

@[grind ←]
lemma stops_modifyComponent (i : Nat) (f : ComponentNode → ComponentNode) :
    Stops P (modifyComponent i f) :=
  stops_modify _

variable [Broad P]

/-! ## Children, processes and services -/

@[grind ←]
lemma stops_getProcess (i : Nat) : Stops P (getProcess i) := by
  unfold getProcess
  grind

@[grind ←]
lemma stops_getForeign (i : Nat) : Stops P (getForeign i) := by
  unfold getForeign
  grind

@[grind ←]
lemma stops_getService (i : Nat) : Stops P (getService i) := by
  unfold getService
  grind

@[grind ←]
lemma stops_getComposer (i : Nat) : Stops P (getComposer i) := by
  unfold getComposer
  grind

@[grind ←]
lemma stops_getChild (c : Nat) : Stops P (getChild c) := by
  unfold getChild
  grind

@[grind ←]
lemma stops_pollChild (c : Nat) : Stops P (pollChild c) := by
  unfold pollChild modifyChild
  grind

@[grind ←]
lemma stops_signalOf (v : Value) : Stops P (signalOf v) := by
  unfold signalOf Stop.silent Fault.silent
  grind

@[grind ←]
lemma stops_signalChild (c : Nat) (signal : Int) : Stops P (signalChild c signal) := by
  unfold signalChild takeSignal modifyChild emit
  grind

@[grind ←]
lemma stops_waitChild (c : Nat) (timeout : Value) : Stops P (waitChild c timeout) := by
  unfold waitChild endChild modifyChild
  grind

@[grind ←]
lemma stops_getEntry (pid : Int) : Stops P (getEntry pid) := by
  unfold getEntry
  grind

@[grind ←]
lemma stops_waitForeign (i : Nat) (timeout : Value) : Stops P (waitForeign i timeout) := by
  have entry (pid : Int) : Stops P (waitEntry pid timeout) := by
    unfold waitEntry modifyEntry
    grind
  unfold waitForeign
  grind

@[grind ←]
lemma stops_signalForeign (i : Nat) (num : Int) : Stops P (signalForeign i num) := by
  unfold signalForeign signalEntry modifyEntry emit
  grind

@[grind ←]
lemma stops_actualSignal (n : Node) (num : Int) (name : String) :
    Stops P (actualSignal n num name) := by
  unfold actualSignal
  grind

@[grind ←]
lemma stops_deliverSignal (n : Node) (c : Nat) (num : Int) (name : String) :
    Stops P (deliverSignal n c num name) := by
  unfold deliverSignal
  grind

@[grind ←]
lemma stops_serviceRunning (n : ServiceNode) : Stops P (serviceRunning n) := by
  unfold serviceRunning
  grind

@[grind ←]
lemma stops_joinServiceProcess (v : Nat) (timeout : Value) :
    Stops P (joinServiceProcess v timeout) := by
  unfold joinServiceProcess endService modifyService modifyNode
  grind

/-! ## The node graph -/

@[grind ←]
lemma stops_useAdapter : Stops P useAdapter := by
  unfold useAdapter getLauncher modifyLauncher noteCall
  grind

lemma stops_stopAdapter : Stops P stopAdapter := by
  unfold stopAdapter getLauncher modifyLauncher noteCall
  grind

lemma stops_wait {found : Launch Bool} (hf : Stops P found) (timeout : Value) (reached : Bool) :
    Stops P (wait found timeout reached) := by
  have late (start : Float) : Stops P (timedOut start timeout reached) := by
    unfold timedOut
    grind
  refine (stops_waitRounds timeout).bind fun n => stops_now.bind fun start => ?_
  induction n with
  | zero => exact stops_pure _
  | succ n ih =>
    unfold waitUntil
    grind

@[grind ←]
lemma stops_connectedByName (i : Nat) (timeout : Value) : Stops P (connectedByName i timeout) := by
  have names : Stops P graphNodeNames := by
    unfold graphNodeNames
    grind
  have found : Stops P (do
      let names ← graphNodeNames
      return names.contains (← getNode i).fullname) := by
    grind
  have wait := stops_wait found timeout true
  unfold connectedByName
  grind

lemma stops_callValue (f : Value) (args : List Value) : Stops P (callValue f args) := by
  unfold callValue kindOf emit Stop.silent Fault.silent
  split
  · refine stops_get.bind fun s => ?_
    split
    · refine stops_get.bind fun s => (stops_modify _).bind fun _ => ?_
      grind
    · grind
  · grind

/-! ## Asking a node to end -/

section Fault

@[grind ←]
lemma faults_throw {α : Type} (f : Fault) : Stops IsFault (throw (.fault f) : Launch α) :=
  stops_throw ⟨f, rfl⟩

@[grind ←]
lemma faults_told {α : Type} (c : Cause) (t : String) : Stops IsFault (told c t : Launch α) :=
  faults_throw _

lemma faults_runningWith (fuel i : Nat) : Stops IsFault (runningWith fuel i) := by
  induction fuel generalizing i with
  | zero => exact faults_throw _
  | succ fuel ih =>
    unfold runningWith foreignRunning Stop.bare
    grind

@[grind ←]
lemma faults_isRunning (i : Nat) : Stops IsFault (isRunning i) :=
  stops_get.bind fun _ => faults_runningWith _ i

@[grind ←]
lemma faults_nodeText (i : Nat) : Stops IsFault (nodeText i) := by
  have pid : Stops IsFault (pidOf i) := by
    unfold pidOf
    grind
  refine (stops_getNode i).bind fun n => (stops_display _).bind fun pkg => ?_
  grind

@[grind ←]
lemma faults_shutdownProcess (i : Nat) (reason signal timeout : Value) :
    Stops IsFault (shutdownProcess i reason signal timeout) := by
  have signalled : Stops IsFault (signalProcess i signal) := by
    refine (stops_getProcess i).bind fun p => ?_
    split
    · exact stops_pure _
    · refine (stops_pollChild _).bind fun code => ?_
      grind
  have awaited : Stops IsFault (awaitChild i timeout) := by
    unfold awaitChild
    grind
  unfold shutdownProcess askThenWait askProcess askNode
  grind

@[grind ←]
lemma faults_shutdownForeign (i : Nat) (reason signal timeout : Value) :
    Stops IsFault (shutdownForeign i reason signal timeout) := by
  have awaited : Stops IsFault (awaitForeign i timeout) := by
    unfold awaitForeign
    grind
  unfold shutdownForeign askThenWait askForeign askNode
  grind

@[grind ←]
lemma faults_shutdownService (i : Nat) (reason signal timeout : Value) :
    Stops IsFault (shutdownService i reason signal timeout) := by
  have number (v : Value) : Stops IsFault (signalNumber v) := by
    unfold signalNumber
    grind
  have closed (pid : Int) (v : Value) : Stops IsFault (closeService i pid v) := by
    unfold closeService endService modifyService modifyNode emit
    grind
  have grouped (pid num : Int) : Stops IsFault (signalGroup i pid num) := by
    unfold signalGroup endService modifyService modifyNode emit Stop.bare
    grind
  have signalled (v : Value) : Stops IsFault (signalService i v) := by
    unfold signalService
    grind
  have asked (n : Node) (why : String) (kill : Bool) : Stops IsFault (requestEnd i n why kill) := by
    unfold requestEnd modifyService modifyNode
    grind
  have awaited : Stops IsFault (awaitTermination i) := by
    unfold awaitTermination
    grind
  refine awaited.bind fun _ => (faults_isRunning i).bind fun running => ?_
  split
  · exact stops_pure _
  · refine (stops_getNode i).bind fun n => (stops_display reason).bind fun why => ?_
    grind

@[grind ←]
lemma faults_serviceClient (topic : Value) (type : String) (timeout qos : Value) :
    Stops IsFault (serviceClient topic type timeout qos) := by
  have quality : Stops IsFault (serviceQuality qos) := by
    unfold serviceQuality plainReportOf
    grind
  have opened (q : Report) : Stops IsFault (openClient topic type q) := by
    unfold openClient keepTopic noteCall reportOf
    grind
  have awaited (t : Float) : Stops IsFault (awaitService "wait_for_service" topic t) := by
    unfold awaitService advance noteCall reportOf
    grind
  unfold serviceClient
  grind

@[grind ←]
lemma faults_request (asynchronous : Bool) (topic : Value) (type : String)
    (fields : Named) : Stops IsFault (request asynchronous topic type fields) := by
  have response : Stops IsFault (takeResponse topic) := by
    unfold takeResponse
    grind
  have heard (t : String) (state : Int) : Stops IsFault (deliverState t state) := by
    unfold deliverState setLifecycle modifyNode
    refine stops_get.bind fun s => (Stops.forM _ fun e => ?_).bind fun _ => stops_pure _
    grind [stops_callValue]
  unfold request noteCall textOf
  refine stops_get.bind fun s => (stops_modify _).bind fun _ => response.bind fun r => ?_
  grind

lemma fails_item (xs : List Value) (i : Value) : Fails P (Value.item (.list xs) i) := by
  have place : ∀ n, Fails P (Value.place xs n) := by
    unfold Value.place
    grind
  have number : Fails P (Value.placeNumber i) := by
    unfold Value.placeNumber Value.noPlaces
    grind
  exact number.bind place

@[grind ←]
lemma faults_composerService (i : Nat) (name : String) :
    Stops IsFault (composerService i name) := by
  unfold composerService
  grind

@[grind ←]
lemma faults_componentName (i : Nat) (cid : Value) : Stops IsFault (componentName i cid) := by
  have item := fun xs => stops_lift (fails_item (P := IsFault) xs cid)
  have called (topic : Value) (type : String) (fields : Named) (timeout qos : Value) :
      Stops IsFault (callWith topic type fields timeout qos) := by
    unfold callWith
    grind
  have live : Stops IsFault (liveComponents i) := by
    unfold liveComponents
    grind
  unfold componentName
  grind

@[grind ←]
lemma faults_awaitUnload (reply : Nat) (timeout : Value) :
    Stops IsFault (awaitUnload reply timeout) := by
  have done : Stops IsFault (replyDone reply) := by
    unfold replyDone noteCall
    grind
  have awaited (n : Nat) : Stops IsFault (awaitReply reply n) := by
    induction n with
    | zero => exact faults_throw _
    | succ n ih =>
      unfold awaitReply
      grind
  have within (t start : Float) (n : Nat) : Stops IsFault (awaitReplyWithin reply t start n) := by
    induction n with
    | zero => exact stops_pure _
    | succ n ih =>
      unfold awaitReplyWithin
      grind
  have rounds : Stops IsFault (replyRounds reply) := by
    unfold replyRounds
    grind
  unfold awaitUnload
  grind

@[grind ←]
lemma faults_unloadComponent (i : Nat) (component timeout : Value) :
    Stops IsFault (unloadComponent i component timeout) := by
  have number : Stops IsFault (componentNumber component) := by
    unfold componentNumber
    grind
  have answer (reply : Nat) : Stops IsFault (replyFields reply) := by
    unfold replyFields
    grind
  have forgotten (cid : Value) (node : Option Nat) : Stops IsFault (forgetComponent i cid node) := by
    unfold forgetComponent modifyComposer modifyNode
    grind
  refine (faults_isRunning i).bind fun running => Stops.when (faults_told _ _) fun _ => ?_
  refine (stops_getNode i).bind fun n => number.bind fun number => ?_
  refine Stops.unless (faults_throw _) fun _ => ?_
  refine (faults_componentName i _).bind fun name => (stops_display _).bind fun shown => ?_
  refine (stops_warn _ _).bind fun _ => (faults_composerService i _).bind fun topic => ?_
  refine Stops.bind ?_ fun reply => ?_
  · unfold callAsync keepMessage
    grind
  · grind

@[grind ←]
lemma faults_shutdownComponent (i : Nat) (reason timeout : Value) :
    Stops IsFault (shutdownComponent i reason timeout) := by
  have component : Stops IsFault (getComponent i) := by
    unfold getComponent
    grind
  unfold shutdownComponent requestUnload
  grind

lemma faults_shutdownWith (reason signal timeout : Value) (fuel i : Nat) :
    Stops IsFault (shutdownWith reason signal timeout fuel i) := by
  have managed (i : Nat) : Stops IsFault (managedComponents i) := by
    unfold managedComponents
    grind
  induction fuel generalizing i with
  | zero => exact faults_throw _
  | succ fuel ih =>
    unfold shutdownWith notImplemented Stop.bare
    refine (stops_getNode i).bind fun n => ?_
    split
    case h_6 c _ =>
      refine (faults_isRunning _).bind fun running => ?_
      split
      · exact (managed i).bind fun _ =>
          (Stops.forM _ fun j => stops_modifyComponent j _).bind fun _ => stops_pure _
      · refine (stops_getNode i).bind fun n => (managed i).bind fun components => ?_
        refine (Stops.forM _ fun j => ?_).bind fun _ => (ih c.wrapped).catchFault fun f _ => ?_
        · refine (faults_shutdownComponent j reason timeout).catchFault fun f _ => ?_
          exact (faults_nodeText j).bind fun _ => stops_warn _ _
        · grind
    all_goals grind

lemma faults_shutdownNode (i : Nat) (reason signal timeout : Value) :
    Faults (shutdownNode i reason signal timeout) :=
  Stops.bind (P := IsFault) stops_get fun _ => faults_shutdownWith _ _ _ _ i

end Fault

end Launchpad.Launch
