import Qarax.Core.Effect
import Qarax.Core.Sorted
import Qarax.Core.Tokens
import Qarax.Node.Networking.Validate
import Qarax.Control.VmDisks
import Qarax.Control.Admission

/-!
# What a VM was scheduled with

A VM is placed by a `SchedulingRequest` with an architecture and a placement policy, and both are
written into the VM's `config` document.  When the VM has to move, `evacuation_scheduling_request`
reads them back from there.

* `Policy.fromJson_toJson` — what is written of a policy is read back as that policy.
* `normalizeArchitecture_normalized` — and an architecture is normalized once and for all.
* `isObject_resolveConfig` — whether the document is an object: only objects have members to write.
* `persists_iff` — the two requests ask for the same where, and only where, it is one.
-/

namespace Qarax.Metadata

/-! ## Architectures -/

/-- `str::trim` -/
def trim (text : String) : List Char := Tokens.trim isWhitespace text.toList

def normalizeArchitecture (value : String) : Option String :=
  let trimmed := trim value
  if trimmed.isEmpty then none
  else
    let lower := String.ofList (trimmed.map Char.toLower)
    some (if lower = "amd64" then "x86_64" else if lower = "arm64" then "aarch64" else lower)

lemma toLower_cases (c : Char) :
    (65 ≤ c.toNat ∧ c.toNat ≤ 90 ∧ c.toLower.toNat = c.toNat + 32) ∨ c.toLower = c := by
  unfold Char.toLower
  split_ifs with h
  · obtain ⟨hlow, hhigh⟩ := h
    have hlow : 65 ≤ c.val.toNat := UInt32.le_iff_toNat_le.1 hlow
    have hhigh : c.val.toNat ≤ 90 := UInt32.le_iff_toNat_le.1 hhigh
    refine .inl ⟨hlow, hhigh, ?_⟩
    show (c.val + 32).toNat = c.val.toNat + 32
    rw [UInt32.toNat_add]
    exact Nat.mod_eq_of_lt (by change c.val.toNat + 32 < 2 ^ 32; omega)
  · exact .inr rfl

lemma toLower_toLower (c : Char) : c.toLower.toLower = c.toLower := by
  rcases toLower_cases c.toLower with ⟨hlow, hhigh, -⟩ | h
  · rcases toLower_cases c with ⟨hlow', -, hnat⟩ | h'
    · omega
    · rw [h', h']
  · exact h

lemma isWhitespace_toLower (c : Char) : isWhitespace c.toLower = isWhitespace c := by
  rcases toLower_cases c with ⟨hlow, hhigh, hnat⟩ | h
  · have hletter : ∀ d : Char, 65 ≤ d.toNat → d.toNat ≤ 122 → isWhitespace d = false := by
      intro d hlow hhigh
      simp only [isWhitespace, Bool.or_eq_false_iff, Bool.and_eq_false_iff, decide_eq_false_iff_not,
        beq_eq_false_iff_ne]
      omega
    rw [hletter c hlow (by omega), hletter c.toLower (by omega) (by omega)]
  · rw [h]

/-- **Normalizing is idempotent.** -/
lemma normalizeArchitecture_normalized {value architecture : String}
    (h : normalizeArchitecture value = some architecture) :
    normalizeArchitecture architecture = some architecture := by
  unfold normalizeArchitecture at h
  simp only at h
  split_ifs at h with hempty hamd harm
  · obtain rfl := Option.some.inj h
    decide +kernel
  · obtain rfl := Option.some.inj h
    decide +kernel
  · obtain rfl := Option.some.inj h
    have htrim : trim (String.ofList ((trim value).map Char.toLower))
        = (trim value).map Char.toLower := by
      rw [trim, String.toList_ofList, Tokens.trim_map isWhitespace_toLower, trim, Tokens.trim_trim]
    have hlower : ((trim value).map Char.toLower).map Char.toLower
        = (trim value).map Char.toLower := by
      simp only [List.map_map, Function.comp_def, toLower_toLower]
    have hempty' : ((trim value).map Char.toLower).isEmpty = false := by
      simpa using hempty
    simp [normalizeArchitecture, htrim, hlower, hempty', hamd, harm]

/-- The architecture the control plane was built for, a name and not blank. -/
structure ControlPlane where
  arch : String
  named : (normalizeArchitecture arch).isSome = true

/-- `current_architecture` -/
def ControlPlane.architecture (env : ControlPlane) : String :=
  (normalizeArchitecture env.arch).getD env.arch

def resolvedVmArchitecture (env : ControlPlane) (architecture : Option String) : String :=
  (architecture.bind normalizeArchitecture).getD env.architecture

lemma normalized_resolvedVmArchitecture (env : ControlPlane) (architecture : Option String) :
    normalizeArchitecture (resolvedVmArchitecture env architecture)
      = some (resolvedVmArchitecture env architecture) := by
  unfold resolvedVmArchitecture
  cases h : architecture.bind normalizeArchitecture with
  | some name =>
    obtain ⟨value, -, hname⟩ := Option.bind_eq_some_iff.1 h
    exact normalizeArchitecture_normalized hname
  | none =>
    obtain ⟨name, hname⟩ := Option.isSome_iff_exists.1 env.named
    simp only [Option.getD_none, ControlPlane.architecture, hname, Option.getD_some]
    exact normalizeArchitecture_normalized hname

/-! ## Placement policies -/

/-- `PlacementPolicy` as requests and documents hold it. -/
structure Policy where
  reservationClass : Option String
  requiredHostLabels : Sorted.Assoc String String
  preferredHostLabels : Sorted.Assoc String String
  affinityTags : List String
  antiAffinityTags : List String
  spreadTags : List String

namespace Policy

/-- What the scheduler reads of it. -/
def placement (policy : Policy) : PlacementPolicy where
  reservationClass := policy.reservationClass
  requiredHostLabels := policy.requiredHostLabels.entries
  preferredHostLabels := policy.preferredHostLabels.entries
  affinityTags := policy.affinityTags
  antiAffinityTags := policy.antiAffinityTags
  spreadTags := policy.spreadTags

def validateLabelMap (field : String) (labels : Sorted.Assoc String String) :
    Except ApiError Unit :=
  labels.entries.forM fun (key, value) => do
    if (trim key).isEmpty then
      throw (.unprocessableEntity s!"{field} keys cannot be empty")
    if (trim value).isEmpty then
      throw (.unprocessableEntity s!"{field}.{key} cannot be empty")

def validateTagList (field : String) (tags : List String) : Except ApiError Unit :=
  if tags.any fun tag => (trim tag).isEmpty then
    .error (.unprocessableEntity s!"{field} cannot contain empty tags")
  else .ok ()

def validate (policy : Policy) : Except ApiError Unit := do
  if policy.reservationClass.any fun reserved => (trim reserved).isEmpty then
    throw (.unprocessableEntity "placement_policy.reservation_class cannot be empty")
  validateLabelMap "placement_policy.required_host_labels" policy.requiredHostLabels
  validateLabelMap "placement_policy.preferred_host_labels" policy.preferredHostLabels
  validateTagList "placement_policy.affinity_tags" policy.affinityTags
  validateTagList "placement_policy.anti_affinity_tags" policy.antiAffinityTags
  validateTagList "placement_policy.spread_tags" policy.spreadTags

def labelsToJson (labels : Sorted.Assoc String String) : Json :=
  .obj (labels.entries.map fun label => (label.1, .str label.2))

def tagsToJson (tags : List String) : Json := .arr (tags.map .str)

def toJson (policy : Policy) : Json :=
  .obj [("reservation_class", policy.reservationClass.elim .null .str),
    ("required_host_labels", labelsToJson policy.requiredHostLabels),
    ("preferred_host_labels", labelsToJson policy.preferredHostLabels),
    ("affinity_tags", tagsToJson policy.affinityTags),
    ("anti_affinity_tags", tagsToJson policy.antiAffinityTags),
    ("spread_tags", tagsToJson policy.spreadTags)]

def classFromJson : Json → Option (Option String)
  | .null => some none
  | j => j.asStr.map some

def labelsFromJson : Json → Option (Sorted.Assoc String String)
  | .obj members =>
    (members.mapM fun m : String × Json => m.2.asStr.map (m.1, ·)).map Sorted.Assoc.ofList
  | _ => none

def tagsFromJson : Json → Option (List String)
  | .arr items => items.mapM Json.asStr
  | _ => none

/-- A member by its reader; a missing one has a default. -/
def member {α : Type} (members : List (String × Json)) (key : String) (default : α)
    (read : Json → Option α) : Option α :=
  (members.lookup key).elim (some default) read

def ofMembers (members : List (String × Json)) : Option Policy := do
  return {
    reservationClass := ← member members "reservation_class" none classFromJson
    requiredHostLabels := ← member members "required_host_labels" (.ofList []) labelsFromJson
    preferredHostLabels := ← member members "preferred_host_labels" (.ofList []) labelsFromJson
    affinityTags := ← member members "affinity_tags" [] tagsFromJson
    antiAffinityTags := ← member members "anti_affinity_tags" [] tagsFromJson
    spreadTags := ← member members "spread_tags" [] tagsFromJson }

/-- An array has the fields in their order, the first of which has no default there. -/
def fromJson : Json → Option Policy
  | .obj members => ofMembers members
  | .arr items =>
    let fields := ["reservation_class", "required_host_labels", "preferred_host_labels",
      "affinity_tags", "anti_affinity_tags", "spread_tags"]
    if items.isEmpty || fields.length < items.length then none
    else ofMembers (fields.zip items)
  | _ => none

@[simp] lemma classFromJson_elim (reservationClass : Option String) :
    classFromJson (reservationClass.elim .null .str) = some reservationClass := by
  cases reservationClass <;> rfl

@[simp] lemma labelsFromJson_labelsToJson (labels : Sorted.Assoc String String) :
    labelsFromJson (labelsToJson labels) = some labels := by
  have hread : ∀ entries : List (String × String),
      (entries.map fun label => (label.1, Json.str label.2)).mapM
        (fun m => m.2.asStr.map (m.1, ·)) = some entries := by
    intro entries
    induction entries with
    | nil => rfl
    | cons label entries ih =>
      rw [List.map_cons, List.mapM_cons, ih]
      rfl
  rw [labelsToJson, labelsFromJson, hread, Option.map_some, Sorted.Assoc.ofList_entries]

@[simp] lemma tagsFromJson_tagsToJson (tags : List String) :
    tagsFromJson (tagsToJson tags) = some tags := by
  rw [tagsToJson, tagsFromJson]
  induction tags with
  | nil => rfl
  | cons tag tags ih => simp [List.mapM_cons, ih, Json.asStr]

/-- **A policy is read back from what is written of it.** -/
lemma fromJson_toJson (policy : Policy) : fromJson policy.toJson = some policy := by
  simp [toJson, fromJson, ofMembers, member, List.lookup]

end Policy

/-! ## Creation -/

/-- The part of `NewVm` that decides on architecture, placement policy and `config`. -/
structure CreateRequest extends NewVm where
  architecture : Option String := none
  placementPolicy : Option Policy := none
  numaConfig : Option Json := none

structure ResolvedNewVm where
  architecture : Option String
  placementPolicy : Option Policy
  numaConfig : Option Json
  config : Json

/-- `resolve_create_request`, with the `config` of the template and the architecture of the instance
type where the request names them. -/
def resolveCreateRequest (template : Option Json) (instanceArchitecture : Option String)
    (request : CreateRequest) : Except ApiError ResolvedNewVm := do
  request.placementPolicy.forM Policy.validate
  return {
    architecture := (request.architecture <|> instanceArchitecture).bind normalizeArchitecture
    placementPolicy := request.placementPolicy
    numaConfig := request.numaConfig
    config := resolveConfig template request.toNewVm }

/-- Resources, pools, networks and GPUs are as they are. -/
def schedulingRequestForVm (env : ControlPlane) (rest : SchedulingRequest) (vm : ResolvedNewVm) :
    SchedulingRequest :=
  { rest with
    architecture := some (resolvedVmArchitecture env vm.architecture)
    placementPolicy := vm.placementPolicy.map Policy.placement }

/-- What `create_vm_internal` and `create_vm_with_image_internal` insert as the VM's `config`. -/
def storedConfig (env : ControlPlane) (rest : SchedulingRequest) (vm : ResolvedNewVm) : Json :=
  let targetArchitecture := (schedulingRequestForVm env rest vm).architecture.getD env.architecture
  persistVmSchedulingMetadata vm.config
    { placementPolicy := vm.placementPolicy.map Policy.toJson
      architecture := targetArchitecture
      numaConfig := vm.numaConfig }

/-! ## Reading back -/

def persistedVmArchitecture (config : Json) : Option String :=
  (config.text "architecture").bind normalizeArchitecture

/-- `placement_policy_from_config` -/
def persistedVmPlacementPolicy (config : Json) : Option Policy :=
  (config.get? "placement_policy").bind Policy.fromJson

/-- The row as the scheduler sees it: its other columns, and what its `config` says. -/
def scheduledVm (columns : ScheduledVm) (config : Json) : ScheduledVm :=
  { columns with
    architecture := persistedVmArchitecture config
    placementPolicy := (persistedVmPlacementPolicy config).map Policy.placement }

section Persist

variable {config : Json} {data : SchedulingMetadata}

lemma persistedVmArchitecture_persist (hconfig : config.isObject = true)
    (hdata : normalizeArchitecture data.architecture = some data.architecture) :
    persistedVmArchitecture (persistVmSchedulingMetadata config data) = some data.architecture := by
  have hobject : (persistPlacementPolicy config data.placementPolicy).isObject = true := by
    unfold persistPlacementPolicy
    cases data.placementPolicy <;> simp [hconfig]
  have hmember : (persistVmSchedulingMetadata config data).get? "architecture"
      = some (.str data.architecture) := by
    unfold persistVmSchedulingMetadata
    cases data.numaConfig <;> simp [Json.get?_insert_self hobject]
  rw [persistedVmArchitecture, Json.text, hmember]
  exact hdata

lemma persistedVmPlacementPolicy_persist (hconfig : config.isObject = true) {policy : Option Policy}
    (hdata : data.placementPolicy = policy.map Policy.toJson) :
    persistedVmPlacementPolicy (persistVmSchedulingMetadata config data) = policy := by
  have hmember : (persistVmSchedulingMetadata config data).get? "placement_policy"
      = policy.map Policy.toJson := by
    unfold persistVmSchedulingMetadata persistPlacementPolicy
    rw [hdata]
    cases policy <;> cases data.numaConfig <;> simp [Json.get?_insert_self hconfig]
  rw [persistedVmPlacementPolicy, hmember]
  cases policy with
  | none => rfl
  | some policy => exact Policy.fromJson_toJson policy

/-- Nothing is written into a document that is no object. -/
lemma persistedVmArchitecture_of_not_isObject (hconfig : config.isObject = false) :
    persistedVmArchitecture (persistVmSchedulingMetadata config data) = none := by
  have hobject : (persistVmSchedulingMetadata config data).isObject = false := by
    unfold persistVmSchedulingMetadata persistPlacementPolicy
    cases data.placementPolicy <;> cases data.numaConfig <;> simp [hconfig]
  rw [persistedVmArchitecture, Json.text, Json.get?_of_not_isObject hobject]
  rfl

end Persist

/-! ## Which documents are objects -/

/-- The document of the request is an object, or is made one. -/
def CreateRequest.objectConfig (request : CreateRequest) : Bool :=
  request.config.isObject || request.config.isNull || request.guestAgent.isSome
    || request.haEnabled.isSome

lemma isObject_mergeConfig (template request : Json) :
    (mergeConfig template request).isObject = (request.isObject || request.isNull) := by
  cases template <;> cases request <;> rfl

lemma isObject_resolveConfig (template : Option Json) (request : CreateRequest) :
    (resolveConfig template request.toNewVm).isObject = request.objectConfig := by
  have hagent (config : Json) (enabled : Bool) :
      (setGuestAgentConfig config enabled).isObject = true := by
    simp [setGuestAgentConfig, isObject_asConfig]
  have hha (config : Json) (enabled : Bool) :
      (setHaEnabledConfig config enabled).isObject = true := by
    simp [setHaEnabledConfig, isObject_asConfig]
  unfold resolveConfig CreateRequest.objectConfig
  rw [isObject_mergeConfig]
  cases request.haEnabled <;> cases request.guestAgent <;> simp [hagent, hha]

lemma resolveCreateRequest_eq_ok {template : Option Json} {instanceArchitecture : Option String}
    {request : CreateRequest} {vm : ResolvedNewVm}
    (h : resolveCreateRequest template instanceArchitecture request = .ok vm) :
    vm.config = resolveConfig template request.toNewVm := by
  obtain ⟨-, -, h⟩ := except_bind_eq_ok.1 h
  obtain rfl := Except.ok.inj h
  rfl

/-- **What a VM was placed with persists where its document is an object**: the requests that move
it ask for the architecture and the policy of the one that placed it. -/
theorem persists_iff (env : ControlPlane) (template : Option Json)
    (instanceArchitecture : Option String) (request : CreateRequest) (rest : SchedulingRequest)
    (columns : ScheduledVm) (sourceHostId : Uuid) (networks : List Uuid) (gpu : Option GpuRequest)
    {vm : ResolvedNewVm}
    (h : resolveCreateRequest template instanceArchitecture request = .ok vm) :
    let placed := schedulingRequestForVm env rest vm
    let later := evacuationSchedulingRequest (scheduledVm columns (storedConfig env rest vm))
      sourceHostId networks gpu
    (later.architecture = placed.architecture ∧ later.placementPolicy = placed.placementPolicy)
      ↔ request.objectConfig = true := by
  have hconfig : vm.config.isObject = request.objectConfig := by
    rw [resolveCreateRequest_eq_ok h, isObject_resolveConfig]
  intro placed later
  constructor
  · rintro ⟨harchitecture, -⟩
    by_contra hnot
    have hnone : later.architecture = none :=
      persistedVmArchitecture_of_not_isObject (hconfig.trans (Bool.not_eq_true _ ▸ hnot))
    rw [hnone] at harchitecture
    cases harchitecture
  · intro hobject
    have hobject' : vm.config.isObject = true := hconfig.trans hobject
    exact ⟨persistedVmArchitecture_persist hobject'
        (normalized_resolvedVmArchitecture env vm.architecture),
      congrArg (Option.map Policy.placement)
        (persistedVmPlacementPolicy_persist hobject' rfl)⟩

/-! A VM for hosts of one class, created with a config that is an object and with one that is a
text. -/

def laboratory : ControlPlane := ⟨"x86_64", by decide +kernel⟩

def reserved (config : Json) : CreateRequest where
  config := config
  architecture := some " ARM64 "
  placementPolicy :=
    some ⟨some "gold", .ofList [("zone", "a"), ("rack", "1")], .ofList [], [], [], []⟩

def noRequirements : SchedulingRequest := ⟨0, 0, 0, none, none, [], none, none, []⟩

def noColumns : ScheduledVm := ⟨⟨"vm"⟩, some ⟨"h1"⟩, .running, 0, 0, [], none, none⟩

/-- The requests to place and to move the VM. -/
def requests (request : CreateRequest) : Option (SchedulingRequest × SchedulingRequest) :=
  (resolveCreateRequest none none request).toOption.map fun vm =>
    (schedulingRequestForVm laboratory noRequirements vm,
      evacuationSchedulingRequest
        (scheduledVm noColumns (storedConfig laboratory noRequirements vm)) ⟨"h1"⟩ [] none)

theorem object_persists : ∃ vm, resolveCreateRequest none none (reserved (.obj [])) = .ok vm ∧
    (schedulingRequestForVm laboratory noRequirements vm).architecture = some "aarch64" ∧
    (evacuationSchedulingRequest (scheduledVm noColumns (storedConfig laboratory noRequirements vm))
      ⟨"h1"⟩ [] none).architecture
        = (schedulingRequestForVm laboratory noRequirements vm).architecture :=
  ⟨_, rfl, by decide +kernel,
    ((persists_iff laboratory none none (reserved (.obj [])) noRequirements noColumns ⟨"h1"⟩ [] none
      rfl).2 rfl).1⟩

/-- The policy and the architecture are lost: the VM may be moved to any host. -/
theorem text_loses : (requests (reserved (.str "x"))).map
    (fun r => (r.1.architecture, r.1.placementPolicy.map PlacementPolicy.reservationClass,
      r.2.architecture, r.2.placementPolicy.map PlacementPolicy.reservationClass))
    = some (some "aarch64", some (some "gold"), none, none) := by
  decide +kernel

end Qarax.Metadata
