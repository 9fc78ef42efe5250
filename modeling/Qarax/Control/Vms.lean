import Qarax.Core.Records

/-!
# Rows of `vms` and their `config`

The columns of `vms` that high availability works on, and the functions of `model/vms.rs` that read
and write the free-form `config` document.  The host a VM was failed over from is a member of it.
-/

namespace Qarax

/-- Ids are compared by their texts. -/
structure Uuid where
  text : String
  deriving DecidableEq

inductive VmStatus where
  | unknown
  | pending
  | created
  | running
  | paused
  | shutdown
  | migrating
  | committing
  deriving DecidableEq

inductive HostStatus where
  | unknown
  | down
  | installing
  | installationFailed
  | initializing
  | maintenance
  | up
  deriving DecidableEq

/-! ## Members of `config` -/

def haEnabledConfigKey : String := "ha_enabled"

def failedOverFromConfigKey : String := "failed_over_from"

def guestAgentConfigKey : String := "guest_agent"

def legacySandboxExecConfigKey : String := "sandbox_exec"

def defaultVmConfig : Json := .obj []

def haEnabled (config : Json) : Bool :=
  ((config.get? haEnabledConfigKey).bind Json.asBool).getD false

/-- What the setters start from: an object. -/
def asConfig (config : Json) : Json := if config.isObject then config else defaultVmConfig

def setGuestAgentConfig (config : Json) (enabled : Bool) : Json :=
  ((asConfig config).insert guestAgentConfigKey (.bool enabled)).remove legacySandboxExecConfigKey

def setHaEnabledConfig (config : Json) (enabled : Bool) : Json :=
  (asConfig config).insert haEnabledConfigKey (.bool enabled)

def setFailedOverFrom (config : Json) (sourceHostId : Option Uuid) : Json :=
  match sourceHostId with
  | some hostId => (asConfig config).insert failedOverFromConfigKey (.str hostId.text)
  | none => (asConfig config).remove failedOverFromConfigKey

/-- `config->>'failed_over_from'`, which is all that is ever read of the marker.  The texts of
members that are not strings are no host ids. -/
def marker (config : Json) : Option String := config.text failedOverFromConfigKey

lemma isObject_asConfig (config : Json) : (asConfig config).isObject = true := by
  unfold asConfig
  split_ifs with h
  · exact h
  · rfl

@[simp] lemma marker_setFailedOverFrom_some (config : Json) (h : Uuid) :
    marker (setFailedOverFrom config (some h)) = some h.text := by
  simp [marker, setFailedOverFrom, Json.text, Json.get?_insert_self (isObject_asConfig config),
    Json.asStr]

@[simp] lemma marker_setFailedOverFrom_none (config : Json) :
    marker (setFailedOverFrom config none) = none := by
  simp [marker, setFailedOverFrom, Json.text]

/-! ## Creation -/

def mergeConfig : Json → Json → Json
  | .obj template, .obj request => .obj (Json.extend template request)
  | _, .null => defaultVmConfig
  | _, request => request

/-- The part of a create request that ends up in `config`. -/
structure NewVm where
  vmTemplateId : Option Uuid := none
  guestAgent : Option Bool := none
  haEnabled : Option Bool := none
  config : Json := .null

/-- The `config` of `resolve_create_request`. -/
def resolveConfig (template : Option Json) (request : NewVm) : Json :=
  let config := request.guestAgent.elim request.config (setGuestAgentConfig request.config)
  let config := request.haEnabled.elim config (setHaEnabledConfig config)
  mergeConfig (template.getD defaultVmConfig) config

/-- What `persist_vm_scheduling_metadata` adds to it. -/
structure SchedulingMetadata where
  placementPolicy : Option Json := none
  architecture : String
  numaConfig : Option Json := none

def persistPlacementPolicy (config : Json) (policy : Option Json) : Json :=
  match policy with
  | some policy => config.insert "placement_policy" policy
  | none => config.remove "placement_policy"

def persistVmSchedulingMetadata (config : Json) (data : SchedulingMetadata) : Json :=
  let config := persistPlacementPolicy config data.placementPolicy
  let config := config.insert "architecture" (.str data.architecture)
  data.numaConfig.elim config (config.insert "numa_config")

/-! ## Rows -/

/-- A row of `vms`. -/
structure Vm where
  id : Uuid
  hostId : Option Uuid
  status : VmStatus
  config : Json

/-- A row of `hosts`. -/
structure Host where
  id : Uuid
  status : HostStatus
  deriving DecidableEq

/-- A row of `vm_templates`. -/
structure VmTemplate where
  id : Uuid
  config : Json

/-- The host a row names as the one it was failed over from. -/
def Vm.failedOverFrom (vm : Vm) : Option String := marker vm.config

def updateConfig (id : Uuid) (config : Json) (vms : List Vm) : List Vm :=
  Rows.update Vm.id id (fun vm => { vm with config }) vms

def updateHostId (id hostId : Uuid) (vms : List Vm) : List Vm :=
  Rows.update Vm.id id (fun vm => { vm with hostId := some hostId }) vms

def updateStatus (id : Uuid) (status : VmStatus) (vms : List Vm) : List Vm :=
  Rows.update Vm.id id (fun vm => { vm with status }) vms

/-- `SELECT … WHERE config->>'failed_over_from' = source_host_id`. -/
def listFailedOverFrom (sourceHostId : Uuid) (vms : List Vm) : List Vm :=
  vms.filter fun vm => vm.failedOverFrom = some sourceHostId.text

def listByHost (hostId : Uuid) (vms : List Vm) : List Vm :=
  vms.filter fun vm => vm.hostId = some hostId

end Qarax
