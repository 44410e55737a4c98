import PredictableIP.Designate.Ranges
import PredictableIP.Kube.Client

/-!
# `IPSetManager`: IP sets kept in ConfigMaps

One IP set is one ConfigMap whose data maps holder keys (`pod_<index>`) to addresses. `allocateIP` reads the set, reads
the bind and mdns predictable IP ConfigMaps, picks an address with `getNextIP` outside the siblings' values, and writes
the set back through `createOrPatch`; `releaseIP` deletes the first entry holding an address and updates the set.

`GetNextIP` and `GetPredictableIPAM` are not among the sources: `getNextIP` is modelled from the spec, and
`GetPredictableIPAM` is a parameter (`Pkg`), so every result holds for each range it may return.

* `getNextIPWalk_ok`: a picked address is outside the excluded values and on the walk from `RangeStart` before
  `RangeEnd`;
* `allocatePredictableIPs_single`: for one holder, the updated map holds that holder only, with its existing address
  or a new one from `getNextIP`;
* against any server (`allocateIP_ok`): a held key gets its address back (`allocateIP_held_key`), and a new key gets
  the first address of the walk outside the two siblings' values (`allocateIP_new_key`), so never a sibling's value
  nor `RangeEnd` (`allocateIP_outside_siblings`), but `RangeStart` whenever no sibling holds it, whatever the set
  holds for other keys (`allocateIP_new_key_rangeStart`).
-/

namespace PredictableIP.Designate

open Go Kube Client

/-- What `IPSetManager` uses from `pkg/designate` that is declared outside the modelled files: the names of the bind and
mdns predictable IP ConfigMaps (`BindPredIPConfigMap`, `MdnsPredIPConfigMap`), and `GetPredictableIPAM` as
`AllocateIP` calls it, on `NetworkParameters{CIDR: p}`. -/
structure Pkg where
  bindPredIPConfigMap : String
  mdnsPredIPConfigMap : String
  getPredictableIPAM : Prefix → Except Error NADIpam

/-- `IPSetManager`: the name and namespace of the set's ConfigMap. -/
structure IPSetManager where
  setName : String
  ns : String
  deriving DecidableEq

def IPSetManager.key (m : IPSetManager) : ObjectKey := ⟨m.ns, m.setName⟩

/-! ## `GetNextIP` -/

/-- The walk of `getNextIP` from `candidate`, with `fuel` steps left (it never runs out: see `getNextIP`). -/
def getNextIPWalk (predParams : NADIpam) (currentValues : List String) :
    Nat → Addr → Except Error (String × List String)
  | 0, _ => .error errPredictableIPAllocation
  | fuel + 1, candidate =>
    if !candidate.isValid then .error errPredictableIPAllocation
    else if candidate = predParams.rangeEnd then .error errPredictableIPOutOfAddresses
    else if candidate.string ∈ currentValues then getNextIPWalk predParams currentValues fuel candidate.next
    else .ok (candidate.string, candidate.string :: currentValues)

/-- Modelled from the spec: `GetNextIP` is not among the sources. It walks with `Next` from `RangeStart`, skipping the
addresses whose text is in `currentValues`, and picks the first other address strictly before `RangeEnd`, adding it
to `currentValues` (the set `allocatePredictableIPs` threads through its loop); reaching `RangeEnd` fails with
`ErrPredictableIPOutOfAddresses`. Walking off the family, which the spec leaves out, fails with
`ErrPredictableIPAllocation`. The fuel covers every address left in the family. -/
def getNextIP (predParams : NADIpam) (currentValues : List String) : Except Error (String × List String) :=
  getNextIPWalk predParams currentValues (predParams.rangeStart.room + 1) predParams.rangeStart

/-- `a` is on the walk from `RangeStart`, before it meets `RangeEnd`. -/
def InRange (predParams : NADIpam) (a : String) : Prop :=
  ∃ k, a = (Addr.next^[k] predParams.rangeStart).string ∧ (Addr.next^[k] predParams.rangeStart).isValid ∧
    ∀ j ≤ k, Addr.next^[j] predParams.rangeStart ≠ predParams.rangeEnd

/-- A picked address is outside the excluded values, is valid, and is met before `RangeEnd`. -/
theorem getNextIPWalk_ok {p : NADIpam} {cur : List String} :
    ∀ {fuel : Nat} {c : Addr} {a : String} {cur' : List String}, getNextIPWalk p cur fuel c = .ok (a, cur') →
      a ∉ cur ∧ cur' = a :: cur ∧
        ∃ k, a = (Addr.next^[k] c).string ∧ (Addr.next^[k] c).isValid ∧ ∀ j ≤ k, Addr.next^[j] c ≠ p.rangeEnd
  | 0, _, _, _, h => by cases h
  | fuel + 1, c, a, cur', h => by
    simp only [getNextIPWalk] at h
    split_ifs at h with hv he hm
    · obtain ⟨ha, hc, k, hk, hkv, hke⟩ := getNextIPWalk_ok h
      refine ⟨ha, hc, k + 1, hk, hkv, fun j hj => ?_⟩
      rcases j with _ | j
      · exact he
      · exact hke j (by omega)
    · cases h
      exact ⟨hm, rfl, 0, rfl, by simpa using hv, fun j hj => by rw [Nat.le_zero.mp hj]; exact he⟩

theorem InRange.ne_rangeEnd {p : NADIpam} {a : String} (h : InRange p a) : a ≠ p.rangeEnd.string := by
  obtain ⟨k, rfl, hv, hk⟩ := h
  exact fun he => hk k le_rfl (Addr.string_inj hv he)

/-- On a range of `d` steps, the addresses in range are the first `d` of the walk. -/
theorem InRange.lt_of_stepsTo {p : NADIpam} {d : Nat} (hd : p.rangeStart.stepsTo p.rangeEnd = some d) {a : String}
    (h : InRange p a) : ∃ k < d, a = (Addr.next^[k] p.rangeStart).string := by
  obtain ⟨k, rfl, -, hk⟩ := h
  refine ⟨k, Nat.lt_of_not_le fun hkd => hk d hkd (Addr.iterate_stepsTo hd), rfl⟩

/-- The walk picks `RangeStart` when it is not excluded. -/
theorem getNextIP_rangeStart {p : NADIpam} {cur : List String} {a : String} {cur' : List String}
    (h : getNextIP p cur = .ok (a, cur')) (hs : p.rangeStart.string ∉ cur) : a = p.rangeStart.string := by
  simp only [getNextIP, getNextIPWalk, hs, if_false] at h
  split_ifs at h
  cases h
  rfl

theorem getNextIP_ok {p : NADIpam} {cur : List String} {a : String} {cur' : List String}
    (h : getNextIP p cur = .ok (a, cur')) : a ∉ cur ∧ cur' = a :: cur ∧ InRange p a :=
  getNextIPWalk_ok h

/-! ## `allocatePredictableIPs` -/

/-- The second loop of `allocatePredictableIPs`: a new address for each holder in turn. -/
def allocateNew (predParams : NADIpam) : List String → StrMap → List String → Except Error (StrMap × List String)
  | [], updatedMap, allocatedIPs => .ok (updatedMap, allocatedIPs)
  | nodeName :: rest, updatedMap, allocatedIPs =>
    match getNextIP predParams allocatedIPs with
    | .error e => .error e
    | .ok (ipAddress, allocatedIPs) => allocateNew predParams rest (updatedMap.insert nodeName ipAddress) allocatedIPs

/-- The first loop of `allocatePredictableIPs`: the existing allocations, and the holders that need one. -/
def scanExisting (existingMap : StrMap) (ipHolders : List String) : StrMap × List String :=
  ipHolders.foldl (fun acc ipHolder =>
    match existingMap.lookup ipHolder with
    | some ipValue => (acc.1.insert ipHolder ipValue, acc.2)
    | none => (acc.1, acc.2 ++ [ipHolder])) (∅, [])

/-- `IPSetManager.allocatePredictableIPs`: keep the existing allocations of the holders, allocate the others. -/
def allocatePredictableIPs (predParams : NADIpam) (ipHolders : List String) (existingMap : StrMap)
    (allocatedIPs : List String) : Except Error (StrMap × List String) :=
  allocateNew predParams (scanExisting existingMap ipHolders).2 (scanExisting existingMap ipHolders).1 allocatedIPs

/-- For one holder, the updated map holds that holder only: with its existing address, or with a new one. -/
theorem allocatePredictableIPs_single (p : NADIpam) (h : String) (existingMap : StrMap) (allocatedIPs : List String) :
    allocatePredictableIPs p [h] existingMap allocatedIPs =
      match existingMap.lookup h with
      | some v => .ok ((∅ : StrMap).insert h v, allocatedIPs)
      | none =>
        match getNextIP p allocatedIPs with
        | .error e => .error e
        | .ok (a, allocatedIPs') => .ok ((∅ : StrMap).insert h a, allocatedIPs') := by
  unfold allocatePredictableIPs scanExisting
  simp only [List.foldl_cons, List.foldl_nil]
  cases existingMap.lookup h with
  | some v => rfl
  | none =>
    simp only [List.nil_append, allocateNew]

/-- A holder the existing map lacks gets the address `getNextIP` picks, and the updated map holds it alone. -/
theorem allocatePredictableIPs_new {p : NADIpam} {h : String} {existingMap : StrMap} {allocatedIPs : List String}
    {updatedMap : StrMap} {l : List String} (hnew : existingMap.lookup h = none)
    (hu : allocatePredictableIPs p [h] existingMap allocatedIPs = .ok (updatedMap, l)) :
    ∃ a, getNextIP p allocatedIPs = .ok (a, l) ∧ updatedMap = (∅ : StrMap).insert h a := by
  rw [allocatePredictableIPs_single, hnew] at hu
  dsimp only at hu
  split at hu
  · cases hu
  · rename_i a l' hnext
    cases hu
    exact ⟨a, hnext, rfl⟩

/-- For one holder the updated map holds that holder only, with its existing address or the one `getNextIP` picks. -/
theorem allocatePredictableIPs_singleton {p : NADIpam} {h : String} {existingMap : StrMap}
    {allocatedIPs : List String} {updatedMap : StrMap} {l : List String}
    (hu : allocatePredictableIPs p [h] existingMap allocatedIPs = .ok (updatedMap, l)) :
    ∃ w, updatedMap = (∅ : StrMap).insert h w ∧
      (existingMap.lookup h = some w ∨ ∃ l', getNextIP p allocatedIPs = .ok (w, l')) := by
  cases hv : existingMap.lookup h with
  | some v =>
    rw [allocatePredictableIPs_single, hv] at hu
    cases hu
    exact ⟨v, rfl, .inl rfl⟩
  | none =>
    obtain ⟨a, hnext, rfl⟩ := allocatePredictableIPs_new hv hu
    exact ⟨a, rfl, .inr ⟨l, hnext⟩⟩

/-! ## The set's ConfigMap -/

/-- The labels of an IP set's ConfigMap. -/
def ipsetLabels : StrMap :=
  ((∅ : StrMap).insert "app.kubernetes.io/name" "designate").insert "app.kubernetes.io/component" "ipset"

/-- What `handleConfigMap` makes of the reply to its read: a fresh ConfigMap, with the stored data when there is some,
and the error of a failed read other than not found. -/
def IPSetManager.handleReply (m : IPSetManager) (configMapName : String) (labels : StrMap) :
    Except StatusError ConfigMap → Except StatusError ConfigMap
  | .error e => if e = .notFound then .ok ⟨configMapName, m.ns, labels, ∅, 0⟩ else .error e
  | .ok foundMap => .ok ⟨configMapName, m.ns, labels, foundMap.data, 0⟩

/-- A read of the set gives a fresh ConfigMap with the set's key and labels: empty when the set is not stored, with
the stored data otherwise. -/
theorem handleReply_ok {m : IPSetManager} {r : Except StatusError ConfigMap} {cm : ConfigMap}
    (h : m.handleReply m.setName ipsetLabels r = .ok cm) :
    r = .error .notFound ∧ cm = ⟨m.setName, m.ns, ipsetLabels, ∅, 0⟩ ∨
      ∃ found, r = .ok found ∧ cm = ⟨m.setName, m.ns, ipsetLabels, found.data, 0⟩ := by
  unfold IPSetManager.handleReply at h
  split at h
  · split at h
    · cases h; subst_vars; exact .inl ⟨rfl, rfl⟩
    · cases h
  · cases h; exact .inr ⟨_, rfl, rfl⟩

/-- `IPSetManager.handleConfigMap`. -/
def IPSetManager.handleConfigMap (m : IPSetManager) (configMapName : String) (labels : StrMap) :
    Client (Except StatusError ConfigMap) := do
  let r ← send (.getConfigMap ⟨m.ns, configMapName⟩)
  return m.handleReply configMapName labels r

/-- The values of a ConfigMap read, none when the read failed: `AllocateIP` skips a sibling it cannot read. -/
def readValues : Except StatusError ConfigMap → List String
  | .ok cm => cm.data.values
  | .error _ => []

/-- The result of `AllocateIP` once its write returned: the address the updated map gives the pod. -/
def allocateResult (podIndex : Int) (podKey : String) (updatedMap : StrMap) :
    Except StatusError OperationResult → Except Error String
  | .error e => .error (.wrap "failed to create or patch ConfigMap" (.status e))
  | .ok _ =>
    match updatedMap.lookup podKey with
    | some allocatedIP => .ok allocatedIP
    | none => .error (.msg s!"failed to allocate IP for pod {podIndex}")

/-- The holder key of a pod. -/
def podKey (podIndex : Int) : String := "pod_" ++ toString podIndex

/-- `IPSetManager.AllocateIP`. The new map is set on the ConfigMap before `createOrPatch`, which reads the stored object
over it; the mutate function sets the labels only. -/
def IPSetManager.allocateIP (D : Pkg) (m : IPSetManager) (ipRange : Prefix) (podIndex : Int) :
    Client (Except Error String) := do
  match D.getPredictableIPAM ipRange with
  | .error e => return .error (.wrap "failed to get predictable IP parameters" e)
  | .ok predictableIPParams =>
    match ← m.handleConfigMap m.setName ipsetLabels with
    | .error e => return .error (.wrap "failed to handle ConfigMap" (.status e))
    | .ok configMap =>
      let bindConfigMap ← send (.getConfigMap ⟨m.ns, D.bindPredIPConfigMap⟩)
      let mdnsConfigMap ← send (.getConfigMap ⟨m.ns, D.mdnsPredIPConfigMap⟩)
      let allocatedIPs := readValues bindConfigMap ++ readValues mdnsConfigMap
      match allocatePredictableIPs predictableIPParams [podKey podIndex] configMap.data allocatedIPs with
      | .error e => return .error (.wrap "failed to allocate predictable IPs" e)
      | .ok (updatedMap, _) =>
        let r ← createOrPatch { configMap with data := updatedMap } fun cm => { cm with labels := ipsetLabels }
        return allocateResult podIndex (podKey podIndex) updatedMap r

/-- `IPSetManager.IsIPAllocated`. -/
def IPSetManager.isIPAllocated (m : IPSetManager) (ip : String) : Client Bool := do
  match ← send (.getConfigMap m.key) with
  | .error _ => return false
  | .ok configMap => return configMap.data.values.any (· = ip)

/-- `IPSetManager.ReleaseIP`: delete the first entry holding `ip`, in the order the map is ranged over, and update. -/
def IPSetManager.releaseIP (m : IPSetManager) (ip : String) : Client (Except Error Unit) := do
  match ← send (.getConfigMap m.key) with
  | .error e => return .error (.status e)
  | .ok configMap =>
    match configMap.data.entries.find? (·.2 = ip) with
    | none => return .ok ()
    | some entry =>
      match ← send (.updateConfigMap { configMap with data := configMap.data.erase entry.1 }) with
      | .error e => return .error (.status e)
      | .ok () => return .ok ()

/-! ## What a run of `AllocateIP` returns -/

theorem allocateResult_ok {podIndex : Int} {key : String} {updatedMap : StrMap}
    {r : Except StatusError OperationResult} {a : String} (h : allocateResult podIndex key updatedMap r = .ok a) :
    updatedMap.lookup key = some a := by
  unfold allocateResult at h
  split at h
  · cases h
  · split at h
    · cases h; assumption
    · cases h

/-- A sibling bind map holding the first address of `sampleRange`. -/
def sampleBindMap : ConfigMap :=
  ⟨"bind-ips", "openstack", ∅, (∅ : StrMap).insert "bind_address_0" "10.0.0.1", 0⟩

def samplePkg : Pkg := ⟨"bind-ips", "mdns-ips", fun _ => .ok sampleRange⟩

def sampleSet : IPSetManager := ⟨"designate-designate", "openstack"⟩

/-- The set of `sampleSet` holding `10.0.0.1` for pod `0`. -/
def sampleHeldSet : ConfigMap :=
  ⟨"designate-designate", "openstack", ipsetLabels, (∅ : StrMap).insert (podKey 0) "10.0.0.1", 0⟩

section Runs

variable {D : Pkg} {m : IPSetManager} {pfx : Prefix} {i : Int} {S : Type} {ans : Responder S} {s : S}

/-- A successful `AllocateIP`, against any server: it read the set, then the bind and the mdns maps, and returned the
address the allocation gave the pod's key. -/
theorem allocateIP_ok {a : String} (ha : ((m.allocateIP D pfx i).runOn ans s).1 = .ok a) :
    ∃ p r₂ r₃ cm updatedMap l rest, D.getPredictableIPAM pfx = .ok p ∧
      ((m.allocateIP D pfx i).runOn ans s).2.2 = ⟨.getConfigMap m.key, (ans (.getConfigMap m.key) s).1⟩ ::
        ⟨.getConfigMap ⟨m.ns, D.bindPredIPConfigMap⟩, r₂⟩ :: ⟨.getConfigMap ⟨m.ns, D.mdnsPredIPConfigMap⟩, r₃⟩ :: rest ∧
      m.handleReply m.setName ipsetLabels (ans (.getConfigMap m.key) s).1 = .ok cm ∧
      allocatePredictableIPs p [podKey i] cm.data (readValues r₂ ++ readValues r₃) = .ok (updatedMap, l) ∧
      updatedMap.lookup (podKey i) = some a := by
  unfold IPSetManager.allocateIP at ha ⊢
  cases hp : D.getPredictableIPAM pfx with
  | error e => simp only [hp, pure_eq, runOn_ret] at ha; cases ha
  | ok p =>
    simp only [hp, IPSetManager.handleConfigMap, bind_assoc, send_bind, pure_eq, ret_bind, call_bind, runOn_call]
      at ha ⊢
    cases h₁ : m.handleReply m.setName ipsetLabels (ans (.getConfigMap ⟨m.ns, m.setName⟩) s).1 with
    | error e => simp only [h₁, runOn_ret] at ha; cases ha
    | ok cm =>
      simp only [h₁, runOn_call] at ha ⊢
      generalize ans (.getConfigMap ⟨m.ns, D.bindPredIPConfigMap⟩) _ = x₂ at ha ⊢
      obtain ⟨r₂, s₂⟩ := x₂
      generalize ans (.getConfigMap ⟨m.ns, D.mdnsPredIPConfigMap⟩) s₂ = x₃ at ha ⊢
      obtain ⟨r₃, s₃⟩ := x₃
      cases h₄ : allocatePredictableIPs p [podKey i] cm.data (readValues r₂ ++ readValues r₃) with
      | error e => simp only [h₄, runOn_ret] at ha; cases ha
      | ok res =>
        obtain ⟨u, l⟩ := res
        simp only [h₄, runOn_bind, runOn_ret] at ha ⊢
        exact ⟨p, r₂, r₃, cm, u, l, _, rfl, rfl, h₁, h₄, allocateResult_ok ha⟩

/-- A set read that does not hold the pod's key gives a table without it. -/
theorem handleReply_lookup {r : Except StatusError ConfigMap} {cm : ConfigMap} {key : String}
    (hr : ∀ found, r = .ok found → found.data.lookup key = none) (h : m.handleReply m.setName ipsetLabels r = .ok cm) :
    cm.data.lookup key = none := by
  rcases handleReply_ok h with ⟨-, rfl⟩ | ⟨found, rfl, rfl⟩
  · rfl
  · exact hr found rfl

/-- A new key gets the address `getNextIP` picks outside the values of the two siblings as read: the set's own
entries are not excluded. -/
theorem allocateIP_new_key {a : String}
    (hpool : ∀ cm, (ans (.getConfigMap m.key) s).1 = .ok cm → cm.data.lookup (podKey i) = none)
    (ha : ((m.allocateIP D pfx i).runOn ans s).1 = .ok a) :
    ∃ p r₂ r₃ rest l, D.getPredictableIPAM pfx = .ok p ∧
      ((m.allocateIP D pfx i).runOn ans s).2.2 = ⟨.getConfigMap m.key, (ans (.getConfigMap m.key) s).1⟩ ::
        ⟨.getConfigMap ⟨m.ns, D.bindPredIPConfigMap⟩, r₂⟩ :: ⟨.getConfigMap ⟨m.ns, D.mdnsPredIPConfigMap⟩, r₃⟩ :: rest ∧
      getNextIP p (readValues r₂ ++ readValues r₃) = .ok (a, l) := by
  obtain ⟨p, r₂, r₃, cm, u, l, rest, hp, htr, hcm, halloc, hu⟩ := allocateIP_ok ha
  obtain ⟨a', hnext, rfl⟩ := allocatePredictableIPs_new (handleReply_lookup hpool hcm) halloc
  rw [AList.lookup_insert] at hu
  cases hu
  exact ⟨p, r₂, r₃, rest, l, hp, htr, hnext⟩

/-- **A new key gets an address outside the siblings.** When the set as read holds no entry for the pod, a successful
`AllocateIP` returns an address that is no value of the bind or the mdns map as read in that call, and that lies on
the walk from `RangeStart` before `RangeEnd`; so it is not `RangeEnd`. -/
theorem allocateIP_outside_siblings {a : String}
    (hpool : ∀ cm, (ans (.getConfigMap m.key) s).1 = .ok cm → cm.data.lookup (podKey i) = none)
    (ha : ((m.allocateIP D pfx i).runOn ans s).1 = .ok a) :
    ∃ p r₂ r₃ rest, D.getPredictableIPAM pfx = .ok p ∧
      ((m.allocateIP D pfx i).runOn ans s).2.2 = ⟨.getConfigMap m.key, (ans (.getConfigMap m.key) s).1⟩ ::
        ⟨.getConfigMap ⟨m.ns, D.bindPredIPConfigMap⟩, r₂⟩ :: ⟨.getConfigMap ⟨m.ns, D.mdnsPredIPConfigMap⟩, r₃⟩ :: rest ∧
      a ∉ readValues r₂ ∧ a ∉ readValues r₃ ∧ InRange p a ∧ a ≠ p.rangeEnd.string := by
  obtain ⟨p, r₂, r₃, rest, l, hp, htr, hnext⟩ := allocateIP_new_key hpool ha
  obtain ⟨hout, -, hin⟩ := getNextIP_ok hnext
  simp only [List.mem_append, not_or] at hout
  exact ⟨p, r₂, r₃, rest, hp, htr, hout.1, hout.2, hin, hin.ne_rangeEnd⟩

theorem allocateIP_outside_siblings_sample :
    (∀ cm, (Cluster.serve (.getConfigMap sampleSet.key) (Cluster.empty.writeConfigMap sampleBindMap, [])).1 = .ok cm →
      cm.data.lookup (podKey 0) = none) ∧
    ((sampleSet.allocateIP samplePkg sampleRange.cidr 0).runOn Cluster.serve
      (Cluster.empty.writeConfigMap sampleBindMap, [])).1 = .ok "10.0.0.2" ∧
    ∃ p r₂ r₃ rest, samplePkg.getPredictableIPAM sampleRange.cidr = .ok p ∧
      ((sampleSet.allocateIP samplePkg sampleRange.cidr 0).runOn Cluster.serve
        (Cluster.empty.writeConfigMap sampleBindMap, [])).2.2 =
        ⟨.getConfigMap sampleSet.key,
          (Cluster.serve (.getConfigMap sampleSet.key) (Cluster.empty.writeConfigMap sampleBindMap, [])).1⟩ ::
        ⟨.getConfigMap ⟨"openstack", "bind-ips"⟩, r₂⟩ :: ⟨.getConfigMap ⟨"openstack", "mdns-ips"⟩, r₃⟩ :: rest ∧
      "10.0.0.2" ∉ readValues r₂ ∧ "10.0.0.2" ∉ readValues r₃ ∧ InRange p "10.0.0.2" ∧
      "10.0.0.2" ≠ p.rangeEnd.string :=
  (fun hpool ha => ⟨hpool, ha, allocateIP_outside_siblings hpool ha⟩) (fun _ h => nomatch h) (by decide)

/-- **Every new key starts over at `RangeStart`.** Unless a sibling holds `RangeStart`, a successful `AllocateIP` of
a key the set does not hold returns `RangeStart`, whatever the set holds for other keys. -/
theorem allocateIP_new_key_rangeStart {a : String}
    (hpool : ∀ cm, (ans (.getConfigMap m.key) s).1 = .ok cm → cm.data.lookup (podKey i) = none)
    (ha : ((m.allocateIP D pfx i).runOn ans s).1 = .ok a) :
    ∃ p r₂ r₃ rest, D.getPredictableIPAM pfx = .ok p ∧
      ((m.allocateIP D pfx i).runOn ans s).2.2 = ⟨.getConfigMap m.key, (ans (.getConfigMap m.key) s).1⟩ ::
        ⟨.getConfigMap ⟨m.ns, D.bindPredIPConfigMap⟩, r₂⟩ :: ⟨.getConfigMap ⟨m.ns, D.mdnsPredIPConfigMap⟩, r₃⟩ :: rest ∧
      (p.rangeStart.string ∉ readValues r₂ ++ readValues r₃ → a = p.rangeStart.string) := by
  obtain ⟨p, r₂, r₃, rest, l, hp, htr, hnext⟩ := allocateIP_new_key hpool ha
  exact ⟨p, r₂, r₃, rest, hp, htr, fun hs => getNextIP_rangeStart hnext hs⟩

theorem allocateIP_new_key_rangeStart_sample :
    (∀ cm, (Cluster.serve (.getConfigMap sampleSet.key) (Cluster.empty.writeConfigMap sampleHeldSet, [])).1 = .ok cm →
      cm.data.lookup (podKey 1) = none) ∧
    ((sampleSet.allocateIP samplePkg sampleRange.cidr 1).runOn Cluster.serve
      (Cluster.empty.writeConfigMap sampleHeldSet, [])).1 = .ok "10.0.0.1" ∧
    ∃ p r₂ r₃ rest, samplePkg.getPredictableIPAM sampleRange.cidr = .ok p ∧
      ((sampleSet.allocateIP samplePkg sampleRange.cidr 1).runOn Cluster.serve
        (Cluster.empty.writeConfigMap sampleHeldSet, [])).2.2 =
        ⟨.getConfigMap sampleSet.key,
          (Cluster.serve (.getConfigMap sampleSet.key) (Cluster.empty.writeConfigMap sampleHeldSet, [])).1⟩ ::
        ⟨.getConfigMap ⟨"openstack", "bind-ips"⟩, r₂⟩ :: ⟨.getConfigMap ⟨"openstack", "mdns-ips"⟩, r₃⟩ :: rest ∧
      (p.rangeStart.string ∉ readValues r₂ ++ readValues r₃ → "10.0.0.1" = p.rangeStart.string) :=
  have hread : (Cluster.serve (.getConfigMap sampleSet.key) (Cluster.empty.writeConfigMap sampleHeldSet, [])).1 =
      .ok { sampleHeldSet with resourceVersion := 1 } := by decide
  (fun hpool ha => ⟨hpool, ha, allocateIP_new_key_rangeStart hpool ha⟩)
    (fun cm h => by rw [hread] at h; cases h; decide) (by decide)

/-- **A held key keeps its address.** When the set as read holds an address for the pod, a successful `AllocateIP`
returns that address. -/
theorem allocateIP_held_key {found : ConfigMap} {v a : String} (hread : (ans (.getConfigMap m.key) s).1 = .ok found)
    (hv : found.data.lookup (podKey i) = some v) (ha : ((m.allocateIP D pfx i).runOn ans s).1 = .ok a) : a = v := by
  obtain ⟨p, r₂, r₃, cm, u, l, rest, -, -, hcm, halloc, hu⟩ := allocateIP_ok ha
  rw [hread] at hcm
  obtain ⟨h, -⟩ | ⟨found', hf, rfl⟩ := handleReply_ok hcm
  · cases h
  · cases hf
    rw [allocatePredictableIPs_single, hv] at halloc
    cases halloc
    rw [AList.lookup_insert] at hu
    exact (Option.some.inj hu).symm

theorem allocateIP_held_key_sample :
    (Cluster.serve (.getConfigMap sampleSet.key) (Cluster.empty.writeConfigMap sampleHeldSet, [])).1 =
      .ok { sampleHeldSet with resourceVersion := 1 } ∧
    ({ sampleHeldSet with resourceVersion := 1 } : ConfigMap).data.lookup (podKey 0) = some "10.0.0.1" ∧
    ((sampleSet.allocateIP samplePkg sampleRange.cidr 0).runOn Cluster.serve
      (Cluster.empty.writeConfigMap sampleHeldSet, [])).1 = .ok "10.0.0.1" ∧
    ∀ a, ((sampleSet.allocateIP samplePkg sampleRange.cidr 0).runOn Cluster.serve
      (Cluster.empty.writeConfigMap sampleHeldSet, [])).1 = .ok a → a = "10.0.0.1" :=
  (fun hread hv ha => ⟨hread, hv, ha, fun _ h => allocateIP_held_key hread hv h⟩) (by decide) (by decide) (by decide)

end Runs

end PredictableIP.Designate
