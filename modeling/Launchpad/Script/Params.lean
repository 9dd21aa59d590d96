import Launchpad.Signature

/-!
The parameter lists of what scripts may call, as far as they are long or shared.
-/

namespace Launchpad.Script

instance : Coe (List Param) Signature := ⟨fun params => { params }⟩

def req (n : String) : Param := ⟨n, none⟩
def opt (n : String) (v : Value := .null) : Param := ⟨n, some v⟩
def optBool (n : String) (b : Bool) : Param := ⟨n, some (.bool b)⟩
def optFloat (n : String) (x : Float) : Param := ⟨n, some (.float x)⟩
def optText (n s : String) : Param := ⟨n, some (.str s)⟩
def optInt (n : String) (k : Int) : Param := ⟨n, some (.int k)⟩

def activeStage : Value := .ref (.stage .active)

def termSignal : Int := 15

def queryParams (first : String) : Signature :=
  { params := [req first],
    kwonly := [optBool "include_components" true, optBool "include_launch_service" false,
      optBool "include_foreign" false] }

def processParams : List Param :=
  [opt "remaps", opt "params", opt "cmd_args", opt "env", optBool "isolate_env" false,
    optInt "log_level" 20, optText "output" "screen"]

def nodeSignature : Signature :=
  { params := [req "package", req "executable", opt "name"],
    kwonly := processParams ++
      [optBool "anonymous" false, optBool "hidden" false, opt "on_exit", optInt "max_respawns" 0,
        optFloat "respawn_delay" 0.0, optBool "use_shell" false, optBool "autostart_process" true,
        optFloat "ros_waittime" 3.0, optFloat "lifecycle_waittime" 0.01,
        opt "lifecycle_target" activeStage, optBool "raw" false] }

def newNodeSignature : Signature :=
  { params := [req "package", req "executable", req "name", req "namespace"],
    kwonly := processParams ++
      [opt "on_exit", optInt "max_respawns" 0, optFloat "respawn_delay" 0.0,
        optBool "use_shell" false, optBool "raw" false] }

def composeSignature : Signature :=
  { params := [opt "name", optText "language" "cpp", optText "variant" "normal"],
    kwonly := [optBool "reuse_existing" true, opt "component_remaps", optBool "anonymous" false,
      optBool "hidden" false, optBool "autostart_process" true, optFloat "ros_waittime" 3.0,
      optText "output" "screen"] }

def componentSignature : Signature :=
  { params := [req "package", req "plugin", opt "name"],
    kwonly := [opt "remaps", opt "params", optBool "anonymous" false, optBool "hidden" false,
      optBool "use_intra_process_comms" true, optFloat "ros_waittime" 3.0,
      optFloat "lifecycle_waittime" 0.01, opt "lifecycle_target" activeStage,
      optText "output" "screen"],
    varkw := some "extra_composer_args" }

end Launchpad.Script
