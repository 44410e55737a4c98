import PredictableIP.Go.Netip
import PredictableIP.Kube.Objects

/-!
# `pkg/designate`: predictable IP ranges, Multus annotations and pod ordinals

The functions of `pkg/designate/funcs.go` the controller and the IP set manager use:

- `generatePredictableIPMaps` fills the bind map and then the mdns map from one walk over the range, each loop
  stopping at `RangeEnd` before it writes (`fillRange`);
- `getPodPredictableIP` and `createPredictableMultusAnnotation` take `podIndex` steps from `RangeStart`, failing when a
  step lands on `RangeEnd` (`stepWithin`): they test the sentinel after the step, the maps before the write;
- `extractPodIndexFromName` reads the ordinal after the last dash of a pod name with `Atoi`, so it reads back the
  ordinal of every name a StatefulSet gives its pods (`extractPodIndexFromName_ordinal`), and what it accepts is a
  name with a dash and an ordinal that is not negative (`extractPodIndexFromName_round_trip`);
- `createMultusAnnotation` writes the network list as `encoding/json` does.
-/

namespace PredictableIP.Designate

open Go Kube

/-- The IPAM range of a network attachment (`NADIpam`): the addresses from `rangeStart` up to, and without,
`rangeEnd`. -/
structure NADIpam where
  cidr : Prefix
  rangeStart : Addr
  rangeEnd : Addr
  deriving DecidableEq

/-- `ErrPredictableIPAllocation`. -/
def errPredictableIPAllocation : Error := .msg "predictable IPs: cannot allocate IP addresses"

/-- `ErrPredictableIPOutOfAddresses`. -/
def errPredictableIPOutOfAddresses : Error := .msg "predictable IPs: out of available addresses"

/-! ## Multus annotations -/

/-- `MultusNetworkConfig`; the empty string and the empty list are the omitted fields of its JSON form. -/
structure MultusNetworkConfig where
  name : String
  ns : String := ""
  interface : String := ""
  ips : List String := []
  mac : String := ""
  defaultRoute : List String := []
  deriving DecidableEq

/-- A character of a JSON string as `encoding/json` writes it, escaping HTML characters. -/
def jsonChar (c : Char) : List Char :=
  if c = '"' then ['\\', '"']
  else if c = '\\' then ['\\', '\\']
  else if c = '\n' then ['\\', 'n']
  else if c = '\r' then ['\\', 'r']
  else if c = '\t' then ['\\', 't']
  else if c.toNat < 0x20 ∨ c = '<' ∨ c = '>' ∨ c = '&' ∨ c.toNat = 0x2028 ∨ c.toNat = 0x2029 then
    ['\\', 'u'] ++ (List.replicate (4 - (Nat.toDigits 16 c.toNat).length) '0') ++ Nat.toDigits 16 c.toNat
  else [c]

/-- A JSON string. -/
def jsonString (s : String) : String := ⟨'"' :: s.toList.flatMap jsonChar ++ ['"']⟩

/-- A JSON array of strings. -/
def jsonStrings (l : List String) : String := "[" ++ ",".intercalate (l.map jsonString) ++ "]"

/-- The JSON object of a network, its fields in declaration order and the empty ones omitted. -/
def MultusNetworkConfig.json (n : MultusNetworkConfig) : String :=
  let field (k v : String) : String := jsonString k ++ ":" ++ v
  let fields : List (Option String) :=
    [some (field "name" (jsonString n.name)),
      if n.ns = "" then none else some (field "namespace" (jsonString n.ns)),
      if n.interface = "" then none else some (field "interface" (jsonString n.interface)),
      if n.ips = [] then none else some (field "ips" (jsonStrings n.ips)),
      if n.mac = "" then none else some (field "mac" (jsonString n.mac)),
      if n.defaultRoute = [] then none else some (field "default-route" (jsonStrings n.defaultRoute))]
  "\x7b" ++ ",".intercalate fields.reduceOption ++ "\x7d"

/-- `CreateMultusAnnotation`: `json.Marshal` of the list, which cannot fail for this type, or `""` for no network. -/
def createMultusAnnotation (networks : List MultusNetworkConfig) : Except Error String :=
  if networks = [] then .ok "" else .ok ("[" ++ ",".intercalate (networks.map MultusNetworkConfig.json) ++ "]")

/-- The annotation keys the controller writes. -/
def networksKey : String := "k8s.v1.cni.cncf.io/networks"
def predictableIPKey : String := "designate.openstack.org/predictable-ip"
def podIndexKey : String := "designate.openstack.org/pod-index"
def ipsetNameKey : String := "designate.openstack.org/ipset-name"

/-! ## Walks over the range -/

/-- The loop of `GetPodPredictableIP` and `CreatePredictableMultusAnnotation`: `n` more steps from `ip`, failing when a
step lands on `rangeEnd`. -/
def stepWithin (rangeEnd : Addr) : Nat → Addr → Option Addr
  | 0, ip => some ip
  | n + 1, ip => if ip.next = rangeEnd then none else stepWithin rangeEnd n ip.next

/-- The error of a pod index past the range. -/
def errIndexExceedsRange (podIndex : Int) : Error := .msg s!"pod index {podIndex} exceeds available IP range"

/-- `GetPodPredictableIP`. -/
def getPodPredictableIP (predParams : NADIpam) (podIndex : Int) : Except Error String :=
  match stepWithin predParams.rangeEnd podIndex.toNat predParams.rangeStart with
  | some ip => .ok ip.string
  | none => .error (errIndexExceedsRange podIndex)

/-- `CreatePredictableMultusAnnotation`. -/
def createPredictableMultusAnnotation (networkName interfaceName : String) (podIndex : Int) (predParams : NADIpam) :
    Except Error String :=
  match stepWithin predParams.rangeEnd podIndex.toNat predParams.rangeStart with
  | some ip =>
    Designate.createMultusAnnotation [{ name := networkName, interface := interfaceName, ips := [ip.string] }]
  | none => .error (errIndexExceedsRange podIndex)

/-- `CreatePerPodPredictableAnnotations`. -/
def createPerPodPredictableAnnotations (networkName interfaceName : String) (podIndex : Int) (predParams : NADIpam) :
    Except Error StrMap := do
  let predictableIP ← getPodPredictableIP predParams podIndex
  let multus ← Designate.createMultusAnnotation
    [{ name := networkName, interface := interfaceName, ips := [predictableIP] }]
  return (((∅ : StrMap).insert networksKey multus).insert predictableIPKey predictableIP).insert podIndexKey
    (toString podIndex)

/-- One loop of `GeneratePredictableIPMaps`: `n` more iterations from index `i` and address `ip`, each stopping at
`rangeEnd` or writing `key i ↦ ip` and stepping; the map and the address it stopped at. -/
def fillRange (rangeEnd : Addr) (key : Nat → String) : Nat → Nat → Addr → StrMap → StrMap × Addr
  | 0, _, ip, m => (m, ip)
  | n + 1, i, ip, m =>
    if ip = rangeEnd then (m, ip) else fillRange rangeEnd key n (i + 1) ip.next (m.insert (key i) ip.string)

/-- `GeneratePredictableIPMaps`: the bind map, then the mdns map from where the bind loop stopped. -/
def generatePredictableIPMaps (predParams : NADIpam) (bindReplicas mdnsReplicas : Int) : StrMap × StrMap :=
  let bind :=
    fillRange predParams.rangeEnd (fun i => "bind_address_" ++ toString i) bindReplicas.toNat 0 predParams.rangeStart ∅
  let mdns := fillRange predParams.rangeEnd (fun i => "mdns_address_" ++ toString i) mdnsReplicas.toNat 0 bind.2 ∅
  (bind.1, mdns.1)

/-! ## Pod ordinals -/

/-- `ExtractPodIndexFromName`: `Atoi` of what follows the last dash. -/
def extractPodIndexFromName (podName : String) : Except Error Int :=
  match lastIndex podName.toList '-' with
  | none => .error (.msg s!"invalid pod name format: {podName}")
  | some i =>
    match atoi ⟨podName.toList.drop (i + 1)⟩ with
    | .error e => .error (.wrap s!"invalid ordinal in pod name {podName}" (.num e))
    | .ok ordinal => .ok ordinal

/-- `ExtractPodIndexFromName` of a name whose last dash stands before `post`: `Atoi` of `post`. -/
theorem extractPodIndexFromName_split {n : String} {pre post : List Char} (hn : n.toList = pre ++ '-' :: post)
    (hpost : '-' ∉ post) :
    extractPodIndexFromName n =
      match atoi ⟨post⟩ with
      | .error e => .error (.wrap s!"invalid ordinal in pod name {n}" (.num e))
      | .ok ordinal => .ok ordinal := by
  have hdrop : (pre ++ '-' :: post).drop (pre.length + 1) = post := by simp
  unfold extractPodIndexFromName
  rw [hn, lastIndex_append_cons hpost pre]
  dsimp only
  rw [hdrop]

theorem toList_dash_toString (s : String) (n : Nat) :
    (s ++ "-" ++ toString n).toList = s.toList ++ '-' :: Nat.toDigits 10 n := by
  simp only [String.toList, String.data_append, List.append_assoc]
  rfl

/-- **Ordinals read back.** A StatefulSet names its pods `<name>-<ordinal>`: `ExtractPodIndexFromName` returns the
ordinal of every such name, whatever dashes the StatefulSet's name holds, for every ordinal an `int64` holds. -/
theorem extractPodIndexFromName_ordinal (setName : String) {n : Nat} (hn : n < 2 ^ 63) :
    extractPodIndexFromName (setName ++ "-" ++ toString n) = .ok n := by
  have hatoi : atoi ⟨Nat.toDigits 10 n⟩ = .ok n := atoi_toString hn
  rw [extractPodIndexFromName_split (toList_dash_toString setName n) (sep_not_mem_toDigits (by decide) (by decide) n).1,
    hatoi]

theorem extractPodIndexFromName_ordinal_sample :
    (12 : Nat) < 2 ^ 63 ∧ extractPodIndexFromName ("designate-backendbind9" ++ "-" ++ toString (12 : Nat)) = .ok 12 :=
  ⟨by norm_num, extractPodIndexFromName_ordinal _ (by norm_num)⟩

/-- **`ExtractPodIndexFromName` reads exactly the ordinals.** Every name and every ordinal from `0` to `maxInt`
(of a 64-bit `int`) read back; and whatever name it accepts holds a dash and gives an ordinal that is not negative,
since the text after the last dash holds no minus sign for `Atoi`. -/
theorem extractPodIndexFromName_round_trip :
    (∀ (s : String) (k : Int), 0 ≤ k → k ≤ 2 ^ 63 - 1 → extractPodIndexFromName (s ++ "-" ++ toString k) = .ok k) ∧
      ∀ (n : String) (k : Int), extractPodIndexFromName n = .ok k → 0 ≤ k ∧ '-' ∈ n.toList := by
  refine ⟨fun s k hk hmax => ?_, fun n k h => ?_⟩
  · obtain ⟨n, rfl⟩ := Int.eq_ofNat_of_zero_le hk
    exact extractPodIndexFromName_ordinal s (by omega)
  · cases hi : lastIndex n.toList '-' with
    | none =>
      unfold extractPodIndexFromName at h
      rw [hi] at h
      cases h
    | some i =>
      obtain ⟨pre, post, hn, hpost, -⟩ := lastIndex_eq_some hi
      rw [extractPodIndexFromName_split hn hpost] at h
      split at h
      · cases h
      · rename_i ordinal hord
        cases h
        exact ⟨atoi_nonneg hpost hord, by rw [hn]; simp⟩

theorem extractPodIndexFromName_round_trip_sample :
    (0 : Int) ≤ 12 ∧ (12 : Int) ≤ 2 ^ 63 - 1 ∧
      extractPodIndexFromName ("designate-backendbind9" ++ "-" ++ toString (12 : Int)) = .ok 12 ∧
      extractPodIndexFromName "designate-mdns-2" = .ok 2 ∧ 0 ≤ (2 : Int) ∧ '-' ∈ "designate-mdns-2".toList :=
  have hok : extractPodIndexFromName "designate-mdns-2" = .ok 2 := by decide
  ⟨by norm_num, by norm_num, extractPodIndexFromName_round_trip.1 _ 12 (by norm_num) (by norm_num), hok,
    extractPodIndexFromName_round_trip.2 _ _ hok⟩

end PredictableIP.Designate
