import PredictableIP.Designate.IPSet

/-!
# IP sets on the store

`AllocateIP` and `ReleaseIP` run on the store, each request answered by the store unless a fault fails it.

* `allocateIP_store`: an `AllocateIP` leaves the store alone, or creates the set when it is not stored, with the one
  entry of its pod, or patches the stored set's labels. The data it computed for a stored set is never written:
  `createOrPatch` reads the stored object over it, and the mutate function sets the labels only.
* `releaseIP_store`: a `ReleaseIP` leaves the store alone or deletes the first entry holding the address.
* `runCalls_set_at_most_one`: so from a store without the set, after any calls with any faults, the set holds at most
  one entry (`SmallSet` is the invariant, kept by each call on any set).
* `allocateEach_one_address`: without faults, from a store without the set, every `AllocateIP` that succeeds returns
  the one address `getNextIP` picks outside the siblings' values, whatever pods it is for (`run_allocateIP` says what
  a fault-free call computes from the store, and `OneAddress` is the invariant, kept by each call).
* `interleave_set_at_most_one`: two `AllocateIP` calls running at once, in any order of their requests, also leave a
  set with at most one entry: each request either call can send keeps the sets small (`allocateIP_issues`).
* Runs on `sampleRange`: two pods in turn get the same address and only the first is recorded; every later call
  restarts at `RangeStart`; and two calls at once both succeed with one address, one of the writes lost.
-/

namespace PredictableIP.Designate

open Go Kube Client Cluster

section Store

variable {D : Pkg} {m : IPSetManager} {σ : Cluster}

/-- **What `AllocateIP` can do to the store**: nothing; or, when the set is not stored, create it with the one entry of
the pod; or patch the stored set with its labels. -/
theorem allocateIP_store (pfx : Prefix) (i : Int) (fs : List Fault) :
    (Cluster.run (m.allocateIP D pfx i) σ fs).2 = σ ∨
      (σ.configMaps m.key = none ∧ ∃ a, (Cluster.run (m.allocateIP D pfx i) σ fs).2 =
        σ.writeConfigMap ⟨m.setName, m.ns, ipsetLabels, (∅ : StrMap).insert (podKey i) a, 0⟩) ∨
      ∃ found, σ.configMaps m.key = some found ∧
        (Cluster.run (m.allocateIP D pfx i) σ fs).2 =
          (σ.answer (.patchConfigMap found { found with labels := ipsetLabels })).2 := by
  unfold Cluster.run IPSetManager.allocateIP
  cases hp : D.getPredictableIPAM pfx with
  | error e => exact .inl rfl
  | ok p =>
    simp only [IPSetManager.handleConfigMap, bind_assoc, send_bind, pure_eq, ret_bind, call_bind, runOn_call]
    rw [serve_getConfigMap]
    generalize hr₁ : (serve (.getConfigMap ⟨m.ns, m.setName⟩) (σ, fs)).1 = r₁
    cases h₁ : m.handleReply m.setName ipsetLabels r₁ with
    | error e => simp only [h₁]; exact .inl rfl
    | ok cm =>
      simp only [h₁, runOn_call]
      rw [serve_getConfigMap]
      generalize (serve (.getConfigMap ⟨m.ns, D.bindPredIPConfigMap⟩) (σ, fs.tail)).1 = r₂
      rw [serve_getConfigMap]
      generalize (serve (.getConfigMap ⟨m.ns, D.mdnsPredIPConfigMap⟩) (σ, fs.tail.tail)).1 = r₃
      cases h₄ : allocatePredictableIPs p [podKey i] cm.data (readValues r₂ ++ readValues r₃) with
      | error e => simp only [h₄]; exact .inl rfl
      | ok res =>
        obtain ⟨u, l⟩ := res
        simp only [h₄, runOn_bind, runOn_ret]
        rcases createOrPatch_store { cm with data := u } (fun c => { c with labels := ipsetLabels }) σ
          fs.tail.tail.tail with h | h | ⟨found, hf, h⟩
        · exact .inl h
        · rw [h]
          rcases answer_createConfigMap_snd (σ := σ) { { cm with data := u } with labels := ipsetLabels } with
            h' | ⟨hnone, h'⟩
          · exact .inl h'
          · rcases handleReply_ok h₁ with ⟨-, rfl⟩ | ⟨found, rfl, rfl⟩
            · obtain ⟨a, -, rfl⟩ := allocatePredictableIPs_new (AList.lookup_empty _) h₄
              exact .inr (.inl ⟨hnone, a, h'⟩)
            · exact absurd ((serve_getConfigMap_ok hr₁).symm.trans hnone) (by simp)
        · rcases handleReply_ok h₁ with ⟨-, rfl⟩ | ⟨found', -, rfl⟩ <;> exact .inr (.inr ⟨found, hf, h⟩)

/-- **What `ReleaseIP` can do to the store**: nothing, or store the set without the first entry holding the address. -/
theorem releaseIP_store (hσ : σ.Keyed) (ip : String) (fs : List Fault) :
    (Cluster.run (m.releaseIP ip) σ fs).2 = σ ∨
      ∃ cm e, σ.configMaps m.key = some cm ∧ cm.data.entries.find? (·.2 = ip) = some e ∧
        (Cluster.run (m.releaseIP ip) σ fs).2 = σ.writeConfigMap { cm with data := cm.data.erase e.1 } := by
  unfold Cluster.run IPSetManager.releaseIP
  simp only [bind_assoc, send_bind, pure_eq, ret_bind, call_bind, runOn_call]
  rw [serve_getConfigMap]
  generalize hr : (serve (.getConfigMap m.key) (σ, fs)).1 = r
  cases r with
  | error e => exact .inl rfl
  | ok cm =>
    have hcm := serve_getConfigMap_ok hr
    dsimp only
    cases he : cm.data.entries.find? (·.2 = ip) with
    | none => exact .inl rfl
    | some e =>
      simp only [runOn_call]
      rcases serve_cases (.updateConfigMap { cm with data := cm.data.erase e.1 }) σ fs.tail with h | ⟨e', h⟩ <;>
        rw [h]
      · have hkey : σ.configMaps ({ cm with data := cm.data.erase e.1 } : ConfigMap).key = some cm := by
          show σ.configMaps cm.key = some cm
          rw [hσ _ _ hcm]; exact hcm
        rw [answer_updateConfigMap_of_eq hkey rfl]
        exact .inr ⟨cm, e, hcm, he, rfl⟩
      · exact .inl rfl

/-- Without faults, `ReleaseIP` of an address the set holds stores the set without the first entry holding it. -/
theorem releaseIP_store_of_mem (hσ : σ.Keyed) {ip : String} {cm : ConfigMap} {e : Σ _ : String, String}
    (hcm : σ.configMaps m.key = some cm) (he : cm.data.entries.find? (·.2 = ip) = some e) :
    (Cluster.run (m.releaseIP ip) σ []).2 = σ.writeConfigMap { cm with data := cm.data.erase e.1 } := by
  have hkey : σ.configMaps ({ cm with data := cm.data.erase e.1 } : ConfigMap).key = some cm := by
    show σ.configMaps cm.key = some cm
    rw [hσ _ _ hcm]; exact hcm
  simp only [Cluster.run, IPSetManager.releaseIP, bind_assoc, send_bind, pure_eq, ret_bind, call_bind, runOn_call,
    serve_nil, answer_getConfigMap_of_eq hcm, he, answer_updateConfigMap_of_eq hkey rfl]
  rfl

/-- `AllocateIP` writes no pod, and no ConfigMap but its set's. -/
theorem allocateIP_frame (hσ : σ.Keyed) (pfx : Prefix) (i : Int) (fs : List Fault) :
    (Cluster.run (m.allocateIP D pfx i) σ fs).2.pods = σ.pods ∧
      ∀ k, k ≠ m.key → (Cluster.run (m.allocateIP D pfx i) σ fs).2.configMaps k = σ.configMaps k := by
  rcases allocateIP_store (D := D) (m := m) pfx i fs with h | ⟨-, a, h⟩ | ⟨found, hf, h⟩ <;> rw [h]
  · exact ⟨rfl, fun _ _ => rfl⟩
  · exact ⟨rfl, fun k hk => writeConfigMap_configMaps_of_ne hk⟩
  · refine ⟨(answer_patch_frame hσ _ _).1, fun k hk => (answer_patch_frame hσ _ _).2 k ?_⟩
    rwa [← hσ _ _ hf] at hk

/-- `AllocateIP` hands out no empty address from a set that holds none: it returns a held address or a valid one
`GetNextIP` prints. -/
theorem allocateIP_ne_empty (hset : ∀ cm, σ.configMaps m.key = some cm → "" ∉ cm.data.values) (pfx : Prefix) (i : Int)
    (fs : List Fault) {a : String} (ha : (Cluster.run (m.allocateIP D pfx i) σ fs).1 = .ok a) : a ≠ "" := by
  obtain ⟨p, r₂, r₃, cm, u, l, rest, -, -, hcm, halloc, hu⟩ := allocateIP_ok ha
  obtain ⟨w, rfl, hw⟩ := allocatePredictableIPs_singleton halloc
  obtain rfl : w = a := by simpa only [AList.lookup_insert, Option.some.injEq] using hu
  rcases hw with hw | ⟨l', hnext⟩
  · rcases handleReply_ok hcm with ⟨-, rfl⟩ | ⟨found, hf, rfl⟩
    · simp at hw
    · rintro rfl
      exact hset found (serve_getConfigMap_ok hf) (StrMap.mem_values.mpr ⟨_, hw⟩)
  · obtain ⟨k, rfl, hk, -⟩ := (getNextIP_ok hnext).2.2
    exact Addr.string_ne_empty hk

/-- `ReleaseIP` writes no pod, and no ConfigMap but its set's. -/
theorem releaseIP_frame (hσ : σ.Keyed) (ip : String) (fs : List Fault) :
    (Cluster.run (m.releaseIP ip) σ fs).2.pods = σ.pods ∧
      ∀ k, k ≠ m.key → (Cluster.run (m.releaseIP ip) σ fs).2.configMaps k = σ.configMaps k := by
  rcases releaseIP_store (m := m) hσ ip fs with h | ⟨cm, e, hcm, -, h⟩ <;> rw [h]
  · exact ⟨rfl, fun _ _ => rfl⟩
  · refine ⟨rfl, fun k hk => writeConfigMap_configMaps_of_ne ?_⟩
    rwa [← hσ _ _ hcm] at hk

/-- Without faults, `ReleaseIP` drops the first occurrence of the address from the set's values. -/
theorem releaseIP_values (hσ : σ.Keyed) (ip : String) :
    ((Cluster.run (m.releaseIP ip) σ []).2.dataAt m.key).map StrMap.values =
      (σ.dataAt m.key).map fun d => d.values.erase ip := by
  cases hcm : σ.configMaps m.key with
  | none =>
    rcases releaseIP_store (m := m) hσ ip [] with h | ⟨cm, e, hcm', -⟩
    · rw [h, dataAt, hcm]; rfl
    · exact absurd (hcm.symm.trans hcm') (by simp)
  | some cm =>
    cases he : cm.data.entries.find? (·.2 = ip) with
    | none =>
      rcases releaseIP_store (m := m) hσ ip [] with h | ⟨cm', e, hcm', he', -⟩
      · have hip : ip ∉ cm.data.values := fun hmem => by
          obtain ⟨x, hx, rfl⟩ := List.mem_map.mp hmem
          exact (by simpa using List.find?_eq_none.mp he x hx : False)
        simp only [h, dataAt, hcm, Option.map_some', List.erase_of_not_mem hip]
      · cases hcm.symm.trans hcm'
        exact absurd (he.symm.trans he') (by simp)
    | some e =>
      have hkey : ({ cm with data := cm.data.erase e.1 } : ConfigMap).key = m.key := hσ m.key cm hcm
      rw [releaseIP_store_of_mem hσ hcm he, dataAt_writeConfigMap_self hkey]
      simp only [dataAt, hcm, Option.map_some', StrMap.values_erase_of_find? he]

/-- `IsIPAllocated` without faults: whether the stored set holds the address. -/
theorem run_isIPAllocated (ip : String) :
    (Cluster.run (m.isIPAllocated ip) σ []).1 = ((σ.dataAt m.key).map fun d => d.values.any (· = ip)).getD false := by
  unfold Cluster.run IPSetManager.isIPAllocated
  cases h : σ.configMaps m.key <;> simp [dataAt, h, answer]

theorem any_erase_eq (l : List String) (a : String) : (l.erase a).any (· = a) = decide (2 ≤ l.count a) := by
  rw [Bool.eq_iff_iff, List.any_eq_true, decide_eq_true_eq]
  constructor
  · rintro ⟨x, hx, hxa⟩
    have := List.count_pos_iff.mpr ((of_decide_eq_true hxa) ▸ hx)
    rw [List.count_erase_self] at this
    omega
  · intro h
    exact ⟨a, List.count_pos_iff.mp (by rw [List.count_erase_self]; omega), decide_eq_true rfl⟩

/-- **`ReleaseIP` drops one holder.** Without faults, on a store where every ConfigMap sits under its own key,
`ReleaseIP(ip)` leaves the set's values with the first occurrence of `ip` removed and every other value in place, so
`IsIPAllocated(ip)` then reports the address as held exactly when a second entry held it. -/
theorem releaseIP_isIPAllocated (hσ : σ.Keyed) (ip : String) :
    ((Cluster.run (m.releaseIP ip) σ []).2.dataAt m.key).map StrMap.values =
        (σ.dataAt m.key).map (fun d => d.values.erase ip) ∧
      (Cluster.run (m.isIPAllocated ip) (Cluster.run (m.releaseIP ip) σ []).2 []).1 =
        ((σ.dataAt m.key).map fun d => decide (2 ≤ d.values.count ip)).getD false := by
  have h := releaseIP_values (m := m) hσ ip
  refine ⟨h, ?_⟩
  rw [run_isIPAllocated, show (fun d : StrMap => d.values.any (· = ip)) = (·.any (· = ip)) ∘ StrMap.values from rfl,
    ← Option.map_map, h, Option.map_map]
  simp only [Function.comp_def, any_erase_eq]

end Store

/-- The set `sampleSet` with two entries holding `10.0.0.1`. -/
def sharedAddressCluster : Cluster :=
  Cluster.empty.writeConfigMap ⟨"designate-designate", "openstack", ipsetLabels,
    ((∅ : StrMap).insert (podKey 0) "10.0.0.1").insert (podKey 1) "10.0.0.1", 0⟩

theorem releaseIP_isIPAllocated_shared :
    sharedAddressCluster.Keyed ∧
      (Cluster.run (sampleSet.isIPAllocated "10.0.0.1")
        (Cluster.run (sampleSet.releaseIP "10.0.0.1") sharedAddressCluster []).2 []).1 = true :=
  have hσ : sharedAddressCluster.Keyed := Cluster.keyed_empty.writeConfigMap _
  ⟨hσ, (releaseIP_isIPAllocated hσ "10.0.0.1").2.trans (by decide)⟩

/-! ## Runs of calls on one set -/

/-- A call on a set. -/
inductive PoolCall
  | allocateIP (ipRange : Prefix) (podIndex : Int)
  | releaseIP (ip : String)

/-- The store after one call, which meets its own faults. -/
def PoolCall.store (D : Pkg) (m : IPSetManager) (σ : Cluster) : PoolCall × List Fault → Cluster
  | (.allocateIP ipRange podIndex, fs) => (Cluster.run (m.allocateIP D ipRange podIndex) σ fs).2
  | (.releaseIP ip, fs) => (Cluster.run (m.releaseIP ip) σ fs).2

/-- The store after calls made one after another. -/
def runCalls (D : Pkg) (m : IPSetManager) (σ : Cluster) (calls : List (PoolCall × List Fault)) : Cluster :=
  calls.foldl (PoolCall.store D m) σ

/-- Every ConfigMap is stored under its key, and the set holds at most one entry. -/
def SmallSet (m : IPSetManager) (σ : Cluster) : Prop :=
  σ.Keyed ∧ ∀ d, σ.dataAt m.key = some d → d.entries.length ≤ 1

section Small

variable {D : Pkg} {m : IPSetManager} {σ : Cluster}

theorem SmallSet.congr {σ' : Cluster} (h : SmallSet m σ) (hc : σ'.configMaps = σ.configMaps) : SmallSet m σ' := by
  unfold SmallSet Cluster.Keyed Cluster.dataAt at *
  rwa [hc]

/-- A write of at most one entry keeps every set small. -/
theorem SmallSet.writeConfigMap (h : SmallSet m σ) {cm : ConfigMap} (hc : cm.data.entries.length ≤ 1) :
    SmallSet m (σ.writeConfigMap cm) := by
  refine ⟨h.1.writeConfigMap _, fun d hd => ?_⟩
  rw [dataAt_writeConfigMap] at hd
  split at hd
  · cases hd
    exact hc
  · exact h.2 d hd

/-- A call of `AllocateIP` on any set keeps every set small. -/
theorem SmallSet.allocateIP (h : SmallSet m σ) (m' : IPSetManager) (ipRange : Prefix) (podIndex : Int)
    (fs : List Fault) : SmallSet m (Cluster.run (m'.allocateIP D ipRange podIndex) σ fs).2 := by
  rcases allocateIP_store (D := D) ipRange podIndex fs with e | ⟨-, a, e⟩ | ⟨found, hf, e⟩ <;> rw [e]
  · exact h
  · exact h.writeConfigMap (by simp)
  · refine ⟨h.1.answer _, fun d hd => h.2 d ?_⟩
    rwa [dataAt_answer_patch h.1 (show ({ found with labels := ipsetLabels } : ConfigMap).data = found.data from rfl)]
      at hd

/-- A call of `ReleaseIP` on any set keeps every set small. -/
theorem SmallSet.releaseIP (h : SmallSet m σ) (m' : IPSetManager) (ip : String) (fs : List Fault) :
    SmallSet m (Cluster.run (m'.releaseIP ip) σ fs).2 := by
  rcases releaseIP_store h.1 ip fs with e | ⟨cm, en, hcm, -, e⟩ <;> rw [e]
  · exact h
  · refine ⟨h.1.writeConfigMap _, fun d hd => ?_⟩
    rw [dataAt_writeConfigMap] at hd
    split at hd
    · rename_i hk
      cases hd
      have hm : σ.dataAt m.key = some cm.data := by
        rw [hk, show ({ cm with data := cm.data.erase en.1 } : ConfigMap).key = m'.key from h.1 _ cm hcm]
        simp [dataAt, hcm]
      calc (cm.data.erase en.1).entries.length ≤ cm.data.entries.length := (List.kerase_sublist _ _).length_le
        _ ≤ 1 := h.2 _ hm
    · exact h.2 d hd

theorem SmallSet.store (h : SmallSet m σ) : ∀ c : PoolCall × List Fault, SmallSet m (PoolCall.store D m σ c)
  | (.allocateIP ipRange podIndex, fs) => h.allocateIP m ipRange podIndex fs
  | (.releaseIP ip, fs) => h.releaseIP m ip fs

theorem SmallSet.runCalls : ∀ (calls : List (PoolCall × List Fault)) {σ : Cluster}, SmallSet m σ →
    SmallSet m (runCalls D m σ calls)
  | [], _, h => h
  | c :: calls, _, h => SmallSet.runCalls calls (h.store c)

end Small

/-- **A set never holds two entries.** From a store without the set, after any calls of `AllocateIP` and `ReleaseIP`
on it, each meeting any faults, the stored set holds at most one entry: `AllocateIP` writes the entries of the set
only when it creates it, with the one entry of its pod, and `ReleaseIP` only deletes. -/
theorem runCalls_set_at_most_one (D : Pkg) (m : IPSetManager) {σ : Cluster} (hσ : σ.Keyed)
    (habsent : σ.dataAt m.key = none) (calls : List (PoolCall × List Fault)) {d : StrMap}
    (hd : (runCalls D m σ calls).dataAt m.key = some d) : d.entries.length ≤ 1 :=
  (SmallSet.runCalls calls ⟨hσ, fun _ h => nomatch habsent.symm.trans h⟩).2 d hd

theorem runCalls_set_at_most_one_sample :
    Cluster.empty.Keyed ∧ Cluster.empty.dataAt sampleSet.key = none ∧
      (runCalls samplePkg sampleSet Cluster.empty
        [(.allocateIP sampleRange.cidr 0, []), (.allocateIP sampleRange.cidr 1, [none, some .conflict]),
          (.allocateIP sampleRange.cidr 2, [])]).dataAt sampleSet.key =
        some ((∅ : StrMap).insert "pod_0" "10.0.0.1") ∧
      ((∅ : StrMap).insert "pod_0" "10.0.0.1").entries.length ≤ 1 :=
  have hd : (runCalls samplePkg sampleSet Cluster.empty
      [(.allocateIP sampleRange.cidr 0, []), (.allocateIP sampleRange.cidr 1, [none, some .conflict]),
        (.allocateIP sampleRange.cidr 2, [])]).dataAt sampleSet.key =
      some ((∅ : StrMap).insert "pod_0" "10.0.0.1") := by
    decide
  ⟨keyed_empty, rfl, hd, runCalls_set_at_most_one _ _ keyed_empty rfl _ hd⟩

/-! ## Calls one after another, and two calls at once -/

/-- `AllocateIP` for each index in turn, without faults: the results, and the store after the last. -/
def allocateEach (D : Pkg) (m : IPSetManager) (ipRange : Prefix) :
    List Int → Cluster → List (Except Error String) × Cluster
  | [], σ => ([], σ)
  | podIndex :: rest, σ =>
    let r := Cluster.run (m.allocateIP D ipRange podIndex) σ []
    ((allocateEach D m ipRange rest r.2).1.cons r.1, (allocateEach D m ipRange rest r.2).2)

/-- The values of the two sibling maps in the store: what `AllocateIP` excludes when no fault fails its reads. -/
def siblingValues (D : Pkg) (m : IPSetManager) (σ : Cluster) : List String :=
  ((σ.dataAt ⟨m.ns, D.bindPredIPConfigMap⟩).map StrMap.values).getD [] ++
    ((σ.dataAt ⟨m.ns, D.mdnsPredIPConfigMap⟩).map StrMap.values).getD []

/-- Every address the set holds is the one `getNextIP` picks outside the siblings' values in `σ₀`, and the siblings
are those of `σ₀`. -/
def OneAddress (D : Pkg) (m : IPSetManager) (p : NADIpam) (σ₀ σ : Cluster) : Prop :=
  σ.Keyed ∧ siblingValues D m σ = siblingValues D m σ₀ ∧
    ∀ d, σ.dataAt m.key = some d → ∀ k v, d.lookup k = some v → ∃ l, getNextIP p (siblingValues D m σ₀) = .ok (v, l)

section Faultless

variable {D : Pkg} {m : IPSetManager} {pfx : Prefix} {p : NADIpam} {σ₀ σ : Cluster}

theorem readValues_answer (k : ObjectKey) :
    readValues (σ.answer (.getConfigMap k)).1 = ((σ.dataAt k).map StrMap.values).getD [] := by
  simp only [Cluster.answer, Cluster.dataAt]
  cases σ.configMaps k <;> rfl

/-- The set as `handleConfigMap` reads it from the store. -/
theorem handleReply_answer :
    m.handleReply m.setName ipsetLabels (σ.answer (.getConfigMap ⟨m.ns, m.setName⟩)).1 =
      .ok ⟨m.setName, m.ns, ipsetLabels, (σ.dataAt m.key).getD ∅, 0⟩ := by
  simp only [Cluster.answer, Cluster.dataAt, IPSetManager.key]
  cases σ.configMaps ⟨m.ns, m.setName⟩ <;> rfl

/-- **`AllocateIP` without faults**: it allocates from the stored set and the stored siblings, and writes the result
through `createOrPatch`. -/
theorem run_allocateIP (hp : D.getPredictableIPAM pfx = .ok p) (i : Int) :
    Cluster.run (m.allocateIP D pfx i) σ [] =
      match allocatePredictableIPs p [podKey i] ((σ.dataAt m.key).getD ∅) (siblingValues D m σ) with
      | .error e => (.error (.wrap "failed to allocate predictable IPs" e), σ)
      | .ok (u, _) =>
        (allocateResult i (podKey i) u
          (Cluster.run (createOrPatch ⟨m.setName, m.ns, ipsetLabels, u, 0⟩ fun c => { c with labels := ipsetLabels })
            σ []).1,
          (Cluster.run (createOrPatch ⟨m.setName, m.ns, ipsetLabels, u, 0⟩ fun c => { c with labels := ipsetLabels })
            σ []).2) := by
  simp only [Cluster.run, IPSetManager.allocateIP, hp, IPSetManager.handleConfigMap, bind_assoc, send_bind, pure_eq,
    ret_bind, call_bind, runOn_call, serve_nil, answer_getConfigMap_snd, handleReply_answer, readValues_answer,
    siblingValues]
  generalize allocatePredictableIPs _ _ _ _ = r
  rcases r with _ | ⟨u, l⟩
  · rfl
  · simp only [runOn_bind, runOn_ret]

theorem lookup_singleton_value {k k' w v : String} (h : ((∅ : StrMap).insert k w).lookup k' = some v) : v = w := by
  by_cases hk : k' = k
  · subst hk
    rw [AList.lookup_insert] at h
    exact (Option.some.inj h).symm
  · rw [AList.lookup_insert_ne hk] at h
    cases h

/-- Under `OneAddress`, the allocation gives the pod the one address: the stored one or the same pick again. -/
theorem OneAddress.allocation (h : OneAddress D m p σ₀ σ) (i : Int) {u : StrMap} {l : List String}
    (hu : allocatePredictableIPs p [podKey i] ((σ.dataAt m.key).getD ∅) (siblingValues D m σ) = .ok (u, l)) :
    ∃ w, u = (∅ : StrMap).insert (podKey i) w ∧ ∃ l, getNextIP p (siblingValues D m σ₀) = .ok (w, l) := by
  obtain ⟨w, rfl, hw | ⟨l', hnext⟩⟩ := allocatePredictableIPs_singleton hu
  · refine ⟨w, rfl, ?_⟩
    cases hd : σ.dataAt m.key with
    | none => rw [hd] at hw; cases hw
    | some d => rw [hd] at hw; exact h.2.2 d hd _ w hw
  · exact ⟨w, rfl, l', h.2.1 ▸ hnext⟩

/-- **A fault-free `AllocateIP` keeps `OneAddress`**, and returns the one address when it succeeds: it writes the set
only at its key, with the one entry it allocated, or patches its labels. -/
theorem OneAddress.allocateIP (h : OneAddress D m p σ₀ σ) (hp : D.getPredictableIPAM pfx = .ok p)
    (hb : D.bindPredIPConfigMap ≠ m.setName) (hm : D.mdnsPredIPConfigMap ≠ m.setName) (i : Int) :
    (∀ a, (Cluster.run (m.allocateIP D pfx i) σ []).1 = .ok a → ∃ l, getNextIP p (siblingValues D m σ₀) = .ok (a, l)) ∧
      OneAddress D m p σ₀ (Cluster.run (m.allocateIP D pfx i) σ []).2 := by
  rw [run_allocateIP hp]
  cases hu : allocatePredictableIPs p [podKey i] ((σ.dataAt m.key).getD ∅) (siblingValues D m σ) with
  | error e => exact ⟨fun a ha => (nomatch ha), h⟩
  | ok res =>
    obtain ⟨u, l⟩ := res
    obtain ⟨w, rfl, hw⟩ := h.allocation i hu
    refine ⟨fun a ha => lookup_singleton_value (allocateResult_ok ha) ▸ hw, ?_⟩
    obtain ⟨hσ, hsib, hset⟩ := h
    simp only [Cluster.run]
    rcases createOrPatch_store ⟨m.setName, m.ns, ipsetLabels, (∅ : StrMap).insert (podKey i) w, 0⟩
      (fun c => { c with labels := ipsetLabels }) σ [] with e | e | ⟨found, -, e⟩ <;> rw [e]
    · exact ⟨hσ, hsib, hset⟩
    · rcases answer_createConfigMap_snd (σ := σ) ⟨m.setName, m.ns, ipsetLabels, (∅ : StrMap).insert (podKey i) w, 0⟩
        with e' | ⟨-, e'⟩ <;> rw [e']
      · exact ⟨hσ, hsib, hset⟩
      · refine ⟨hσ.writeConfigMap _, ?_, fun d hd k v hv => ?_⟩
        · simpa only [siblingValues, dataAt_writeConfigMap, ConfigMap.key, ObjectKey.mk.injEq, true_and, hb, hm,
            if_false] using hsib
        · cases hd.symm.trans (dataAt_writeConfigMap_self rfl)
          exact lookup_singleton_value hv ▸ hw
    · have hd := dataAt_answer_patch hσ
        (show ({ found with labels := ipsetLabels } : ConfigMap).data = found.data from rfl)
      refine ⟨hσ.answer _, ?_, fun d h' => hset d ((hd m.key).symm.trans h')⟩
      simpa only [siblingValues, hd] using hsib

theorem OneAddress.allocateEach (hp : D.getPredictableIPAM pfx = .ok p) (hb : D.bindPredIPConfigMap ≠ m.setName)
    (hm : D.mdnsPredIPConfigMap ≠ m.setName) : ∀ (indices : List Int) {σ : Cluster}, OneAddress D m p σ₀ σ →
      ∀ a, .ok a ∈ (allocateEach D m pfx indices σ).1 → ∃ l, getNextIP p (siblingValues D m σ₀) = .ok (a, l)
  | [], _, _, _, ha => absurd ha (List.not_mem_nil _)
  | i :: rest, _, h, a, ha => by
    obtain ⟨hr, h'⟩ := h.allocateIP hp hb hm i
    rcases List.mem_cons.mp ha with ha | ha
    · exact hr a ha.symm
    · exact OneAddress.allocateEach hp hb hm rest h' a ha

/-- **Every pod gets the same address.** From a store without the set, whose sibling maps are not the set,
fault-free `AllocateIP` calls for any pods one after another return, whenever they succeed, the address `getNextIP`
picks outside the siblings' values: a new key gets the same pick again, since the set's own entries are not excluded,
and a held key gets back the address stored for it, which was that pick. So no two calls return different
addresses. -/
theorem allocateEach_one_address (hp : D.getPredictableIPAM pfx = .ok p) (hb : D.bindPredIPConfigMap ≠ m.setName)
    (hm : D.mdnsPredIPConfigMap ≠ m.setName) (hσ : σ.Keyed) (habsent : σ.dataAt m.key = none) (indices : List Int)
    {a : String} (ha : .ok a ∈ (allocateEach D m pfx indices σ).1) :
    (∃ l, getNextIP p (siblingValues D m σ) = .ok (a, l)) ∧
      ∀ b, .ok b ∈ (allocateEach D m pfx indices σ).1 → b = a := by
  have run := OneAddress.allocateEach hp hb hm indices ⟨hσ, rfl, fun _ hd => nomatch habsent.symm.trans hd⟩
  obtain ⟨l, hl⟩ := run a ha
  refine ⟨⟨l, hl⟩, fun b hb' => ?_⟩
  obtain ⟨l', hl'⟩ := run b hb'
  cases hl.symm.trans hl'
  rfl

end Faultless

theorem allocateEach_one_address_sample :
    samplePkg.getPredictableIPAM sampleRange.cidr = .ok sampleRange ∧
      samplePkg.bindPredIPConfigMap ≠ sampleSet.setName ∧ samplePkg.mdnsPredIPConfigMap ≠ sampleSet.setName ∧
      Cluster.empty.Keyed ∧ Cluster.empty.dataAt sampleSet.key = none ∧
      .ok "10.0.0.1" ∈ (allocateEach samplePkg sampleSet sampleRange.cidr [0, 1, 2] Cluster.empty).1 ∧
      (∃ l, getNextIP sampleRange (siblingValues samplePkg sampleSet Cluster.empty) = .ok ("10.0.0.1", l)) ∧
      ∀ b, .ok b ∈ (allocateEach samplePkg sampleSet sampleRange.cidr [0, 1, 2] Cluster.empty).1 → b = "10.0.0.1" :=
  have ha : .ok "10.0.0.1" ∈ (allocateEach samplePkg sampleSet sampleRange.cidr [0, 1, 2] Cluster.empty).1 := by
    decide
  ⟨rfl, by decide, by decide, keyed_empty, rfl, ha,
    allocateEach_one_address rfl (by decide) (by decide) keyed_empty rfl [0, 1, 2] ha⟩

theorem allocateIP_second_key_same_address :
    (allocateEach samplePkg sampleSet sampleRange.cidr [0, 1] Cluster.empty).1 = [.ok "10.0.0.1", .ok "10.0.0.1"] ∧
    (allocateEach samplePkg sampleSet sampleRange.cidr [0, 1] Cluster.empty).2.dataAt sampleSet.key =
      some ((∅ : StrMap).insert (podKey 0) "10.0.0.1") := by
  decide

theorem allocateIP_each_call_restarts :
    sampleRange.rangeStart.stepsTo sampleRange.rangeEnd = some 4 ∧
      (allocateEach samplePkg sampleSet sampleRange.cidr [0, 1, 2, 3, 4] Cluster.empty).1 =
        List.replicate 5 (.ok (Addr.next^[0] sampleRange.rangeStart).string) ∧
      (Addr.next^[0] sampleRange.rangeStart).string ≠ (Addr.next^[1] sampleRange.rangeStart).string := by
  decide

theorem allocateIP_interleaved_lost_update :
    (Cluster.interleave [true, true, true, false, false, false, true, true, false]
        (sampleSet.allocateIP samplePkg sampleRange.cidr 0) (sampleSet.allocateIP samplePkg sampleRange.cidr 1)
        Cluster.empty).1.result? = some (.ok "10.0.0.1") ∧
      (Cluster.interleave [true, true, true, false, false, false, true, true, false]
        (sampleSet.allocateIP samplePkg sampleRange.cidr 0) (sampleSet.allocateIP samplePkg sampleRange.cidr 1)
        Cluster.empty).2.1.result? = some (.ok "10.0.0.1") ∧
      (Cluster.interleave [true, true, true, false, false, false, true, true, false]
        (sampleSet.allocateIP samplePkg sampleRange.cidr 0) (sampleSet.allocateIP samplePkg sampleRange.cidr 1)
        Cluster.empty).2.2.dataAt sampleSet.key = some ((∅ : StrMap).insert (podKey 0) "10.0.0.1") := by
  decide

/-! ## Every interleaving keeps the sets small -/

/-- A request that cannot give a set a second entry: a create of at most one entry, a patch that keeps the data, or a
request that writes no ConfigMap. -/
def KeepsSetsSmall {β : Type} : Request β → Prop
  | .getConfigMap _ => True
  | .createConfigMap cm => cm.data.entries.length ≤ 1
  | .updateConfigMap _ => False
  | .patchConfigMap before after => after.data = before.data
  | .getPod _ => True
  | .updatePod _ => True
  | .listDesignates _ => True

section Interleave

variable {m : IPSetManager} {σ : Cluster}

theorem SmallSet.answer (h : SmallSet m σ) {β : Type} (r : Request β) (hr : KeepsSetsSmall r) :
    SmallSet m (σ.answer r).2 := by
  cases r with
  | getConfigMap k => rw [answer_getConfigMap_snd]; exact h
  | createConfigMap cm =>
    rcases answer_createConfigMap_snd (σ := σ) cm with e | ⟨-, e⟩ <;> rw [e]
    · exact h
    · exact h.writeConfigMap hr
  | updateConfigMap cm => exact hr.elim
  | patchConfigMap before after =>
    refine ⟨h.1.answer _, fun d hd => h.2 d ?_⟩
    rwa [dataAt_answer_patch h.1 hr] at hd
  | getPod k => rw [answer_getPod_snd]; exact h
  | updatePod pod => exact h.congr (answer_updatePod_configMaps pod)
  | listDesignates ns => exact h

/-- Every request of `AllocateIP` keeps the sets small: it creates a set only with the entry of its pod, and its
patch sets labels. -/
theorem allocateIP_issues (D : Pkg) (m' : IPSetManager) (ipRange : Prefix) (podIndex : Int) :
    (m'.allocateIP D ipRange podIndex).Issues KeepsSetsSmall := by
  unfold IPSetManager.allocateIP
  split
  · exact .ret _
  · simp only [IPSetManager.handleConfigMap, bind_assoc, send_bind, pure_eq, ret_bind, call_bind]
    refine .call _ _ trivial fun r₁ => ?_
    split
    · exact .ret _
    · refine .call _ _ trivial fun r₂ => .call _ _ trivial fun r₃ => ?_
      split
      · exact .ret _
      · rename_i hu
        obtain ⟨w, rfl, -⟩ := allocatePredictableIPs_singleton hu
        exact (createOrPatch_issues trivial (by simp [KeepsSetsSmall]) fun _ => rfl).bind fun _ => .ret _

end Interleave

/-- **Two calls at once keep every set small.** From a store where a set holds at most one entry, two `AllocateIP`
calls on any sets, for any pods, running at once on the store in any order of their requests, leave that set with at
most one entry: the create of one is refused once the other has created the set, and patches never change data. -/
theorem interleave_set_at_most_one (sched : List Bool) (D : Pkg) (m m₁ m₂ : IPSetManager) (pfx₁ pfx₂ : Prefix)
    (i₁ i₂ : Int) {σ : Cluster} (hσ : σ.Keyed) (hsmall : ∀ d, σ.dataAt m.key = some d → d.entries.length ≤ 1)
    {d : StrMap}
    (hd : (Cluster.interleave sched (m₁.allocateIP D pfx₁ i₁) (m₂.allocateIP D pfx₂ i₂) σ).2.2.dataAt m.key = some d) :
    d.entries.length ≤ 1 :=
  (interleave_invariant (fun r σ' hr (h : SmallSet m σ') => h.answer r hr) sched (allocateIP_issues D m₁ pfx₁ i₁)
    (allocateIP_issues D m₂ pfx₂ i₂) ⟨hσ, hsmall⟩).2 d hd

theorem interleave_set_at_most_one_sample :
    Cluster.empty.Keyed ∧ (∀ d, Cluster.empty.dataAt sampleSet.key = some d → d.entries.length ≤ 1) ∧
      (Cluster.interleave [true, true, true, false, false, false, true, true, false]
        (sampleSet.allocateIP samplePkg sampleRange.cidr 0) (sampleSet.allocateIP samplePkg sampleRange.cidr 1)
        Cluster.empty).2.2.dataAt sampleSet.key = some ((∅ : StrMap).insert (podKey 0) "10.0.0.1") ∧
      ((∅ : StrMap).insert (podKey 0) "10.0.0.1").entries.length ≤ 1 :=
  have hd : (Cluster.interleave [true, true, true, false, false, false, true, true, false]
      (sampleSet.allocateIP samplePkg sampleRange.cidr 0) (sampleSet.allocateIP samplePkg sampleRange.cidr 1)
      Cluster.empty).2.2.dataAt sampleSet.key = some ((∅ : StrMap).insert (podKey 0) "10.0.0.1") := by
    decide
  ⟨keyed_empty, (fun _ h => nomatch h), hd,
    interleave_set_at_most_one _ samplePkg sampleSet sampleSet sampleSet _ _ 0 1 keyed_empty (fun _ h => nomatch h) hd⟩

end PredictableIP.Designate
