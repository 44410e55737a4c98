import PredictableIP.Designate.Pool
import PredictableIP.Designate.MultusJson

/-!
# `PodAnnotationReconciler`

The controller of `controllers/pod_annotation_controller.go`: on each pod event, `reconcile` reads the pod, skips pods
`isDesignatePod` rejects, releases the address of a deleted pod (`handlePodDeletion`), and annotates a live pod that
has no predictable IP yet: it reads the pod's ordinal from its name, allocates an address from the ipset of the parent
`Designate`'s network attachment (`createIPSetAnnotations`), and writes the annotations with
`updatePodAnnotationsWithRetry`, which merges them into the pod and retries on conflicts with a re-read pod.

* `updatePodAnnotationsWithRetry_updates`: against any server, each update sends the last pod read with the new
  annotations merged in (`mergeAnnotations_lookup`), at most `maxRetries` updates are sent, and the loop succeeds
  exactly when one of them does;
* `reconcile_annotates`: when `Reconcile` of a live, unannotated pod succeeds against a server whose pod reads return
  the pod asked for, an update of that pod carrying the four annotations succeeded, and they agree: the Multus
  network names the predictable IP, the ipset is the network's;
* `reconcile_deleting_release`: the release of a deleted pod's address is best effort, and `Reconcile` succeeds
  whether or not the address left the ipset;
* `reconcileAll_set_at_most_one`: a `Reconcile` changes the ConfigMaps only as one `AllocateIP` or one `ReleaseIP` does
  (`reconcile_store`; its other requests are pod requests, `updateAttempts_configMaps`), so after any `Reconcile`s
  with any faults an ipset that held at most one entry still does;
* `reconcile_frame`: on the store, `Reconcile(req)` writes one ipset at most, no pod but `req`, and of `req` only its
  resource version and its four annotations;
* `reconcile_annotates_store`: after a successful annotation the store holds the pod with the four annotations, the
  Multus annotation reading back as the one network on the predictable IP, that network being the attachment of the
  first `Designate` of the pod's namespace (`reconcile_ok_stored`);
* `reconcile_idempotent`: a second `Reconcile` of the pod it annotated, as its own update triggers, changes nothing,
  and succeeds whenever its read does (`reconcile_annotated_noop`);
* runs on sample clusters: two bind9 pods reconciled in turn carry one address; a conflict on the release leaves the
  address in the ipset while `Reconcile` succeeds; and the name rule admits `designate-mdns-0a`, whose ordinal
  `Reconcile` cannot read.
-/

namespace PredictableIP.Controllers

open Go Kube Designate Client

/-! ## Definitions -/

/-- The services whose StatefulSets run the pods that get predictable IPs. -/
def designateServices : List String := ["designate-backendbind9", "designate-mdns", "designate-unbound"]

/-- The name rule of `isDesignatePod`: a service name, a dash, and a suffix starting with a decimal digit. -/
def nameRule (name : String) : Bool :=
  designateServices.any fun service =>
    hasPrefix name (service ++ "-") &&
      match (trimPrefix name (service ++ "-")).toList with
      | c :: _ => '0' ≤ c && c ≤ '9'
      | [] => false

/-- `isDesignatePod`: the `designate` name label, an owning StatefulSet named after a service, or the name rule. -/
def isDesignatePod (pod : Pod) : Bool :=
  pod.labels.get "app.kubernetes.io/name" == "designate" ||
    pod.ownerReferences.any (fun owner =>
      owner.kind == "StatefulSet" && designateServices.any fun service => contains owner.name service) ||
    nameRule pod.name

/-- `getParentDesignate`: the first `Designate` of the pod's namespace. -/
def getParentDesignate (pod : Pod) : Client (Except Error Designate) := do
  match ← send (.listDesignates pod.ns) with
  | .error e => return .error (.status e)
  | .ok [] => return .error (.msg s!"no Designate CR found in namespace {pod.ns}")
  | .ok (d :: _) => return .ok d

/-- `mergeAnnotations`: each new annotation set on the existing ones, in the order the new map is ranged over. -/
def mergeAnnotations (existing new : StrMap) : StrMap :=
  new.entries.foldl (fun m e => m.insert e.1 e.2) existing

/-- The pod an attempt of `updatePodAnnotationsWithRetry` sends: the annotations merged into the pod's. -/
def mergedPod (annotations : StrMap) (pod : Pod) : Pod :=
  { pod with annotations := mergeAnnotations pod.annotations annotations }

/-- `maxRetries` of `updatePodAnnotationsWithRetry`. -/
def maxRetries : Nat := 5

/-- The loop of `updatePodAnnotationsWithRetry` with `n` attempts left: merge, update, and on a conflict re-read the
pod and go on. The backoff between attempts is left out. -/
def updateAttempts (annotations : StrMap) : Nat → Pod → Client (Except Error Unit)
  | 0, _ => return .error (.msg s!"failed to update pod annotations after {maxRetries} attempts due to conflicts")
  | n + 1, pod => do
    let pod := mergedPod annotations pod
    match ← send (.updatePod pod) with
    | .ok () => return .ok ()
    | .error e =>
      if e = .conflict then
        match ← send (.getPod pod.key) with
        | .error e => return .error (.wrap "failed to re-fetch pod after conflict" (.status e))
        | .ok freshPod => updateAttempts annotations n freshPod
      else return .error (.wrap "failed to update pod annotations" (.status e))

/-- `updatePodAnnotationsWithRetry`. -/
def updatePodAnnotationsWithRetry (pod : Pod) (annotations : StrMap) : Client (Except Error Unit) :=
  updateAttempts annotations maxRetries pod

/-- `createIPSetAnnotations`: an address from the ipset `designate-<network>` of namespace `openstack`, and the four
annotations of the pod. -/
def createIPSetAnnotations (D : Pkg) (networkName interfaceName : String) (podIndex : Int) (predParams : NADIpam) :
    Client (Except Error StrMap) := do
  let ipsetName := "designate-" ++ networkName
  match ← (IPSetManager.mk ipsetName "openstack").allocateIP D predParams.cidr podIndex with
  | .error e => return .error (.wrap "failed to allocate IP via ipset ConfigMap" e)
  | .ok predictableIP =>
    match Designate.createMultusAnnotation [{ name := networkName, interface := interfaceName, ips := [predictableIP] }]
      with
    | .error e => return .error e
    | .ok multusAnnotation =>
      return .ok (((((∅ : StrMap).insert networksKey multusAnnotation).insert predictableIPKey predictableIP).insert
        podIndexKey (toString podIndex)).insert ipsetNameKey ipsetName)

/-- `handlePodDeletion`: release the pod's address from its ipset when both annotations are set. A failed release is
logged, and the result is success either way. -/
def handlePodDeletion (pod : Pod) : Client (Except Error Unit) := do
  let predictableIP := pod.annotations.get predictableIPKey
  let ipsetName := pod.annotations.get ipsetNameKey
  if predictableIP ≠ "" ∧ ipsetName ≠ "" then
    let _ ← (IPSetManager.mk ipsetName "openstack").releaseIP predictableIP
    return .ok ()
  else return .ok ()

/-- What `Reconcile` uses that is declared outside the modelled files: the package of the ipsets, and the predictable
IP range of a network attachment in a namespace (`GetNADWithName`, `GetNetworkParametersFromNAD` and
`GetPredictableIPAM`, with `helper.NewHelper`), as a function that may fail. -/
structure Env where
  pkg : Pkg
  predictableIPParams : String → String → Except Error NADIpam

/-- `PodAnnotationReconciler.Reconcile` for the pod `req`; the empty `ctrl.Result` is left out. -/
def reconcile (E : Env) (req : ObjectKey) : Client (Except Error Unit) := do
  match ← send (.getPod req) with
  | .error e => if e = .notFound then return .ok () else return .error (.status e)
  | .ok pod =>
    if !isDesignatePod pod then return .ok ()
    else if pod.deletionTimestamp.isSome then handlePodDeletion pod
    else if pod.annotations.get predictableIPKey ≠ "" then return .ok ()
    else if pod.phase = .succeeded ∨ pod.phase = .failed then return .ok ()
    else
      match extractPodIndexFromName pod.name with
      | .error e => return .error e
      | .ok podIndex =>
        match ← getParentDesignate pod with
        | .error e => return .error e
        | .ok parentDesignate =>
          match E.predictableIPParams parentDesignate.designateNetworkAttachment pod.ns with
          | .error e => return .error e
          | .ok predictableIPParams =>
            match ← createIPSetAnnotations E.pkg parentDesignate.designateNetworkAttachment "designate" podIndex
                predictableIPParams with
            | .error e => return .error e
            | .ok annotations => updatePodAnnotationsWithRetry pod annotations

/-! ## Sample clusters -/

/-- A running pod of namespace `openstack` without labels, annotations or owners. -/
def samplePod (name : String) : Pod := ⟨name, "openstack", ∅, ∅, [], none, .running, 0⟩

/-- The `Designate` of namespace `openstack`, on the network attachment `designate`. -/
def sampleDesignate : Designate := ⟨"designate", "openstack", "designate"⟩

def sampleEnv : Env := ⟨samplePkg, fun _ _ => .ok sampleRange⟩

/-- The pod `designate-backendbind9-0`, deleted, with the address and the ipset of its annotations. -/
def deletedPod : Pod :=
  { samplePod "designate-backendbind9-0" with
    annotations := ((∅ : StrMap).insert predictableIPKey "10.0.0.1").insert ipsetNameKey "designate-designate"
    deletionTimestamp := some 1 }

/-- The deleted pod, and its ipset holding its address. -/
def deletionCluster : Cluster :=
  { (Cluster.empty.writePod deletedPod).writeConfigMap
      ⟨"designate-designate", "openstack", ipsetLabels, (∅ : StrMap).insert (podKey 0) "10.0.0.1", 0⟩ with
    designates := fun _ => [sampleDesignate] }

/-- Two pods of the bind9 StatefulSet and the `Designate` of their namespace. -/
def bind9Cluster : Cluster :=
  { (Cluster.empty.writePod (samplePod "designate-backendbind9-0")).writePod (samplePod "designate-backendbind9-1") with
    designates := fun _ => [sampleDesignate] }

/-- The sample cluster keeps its objects under their keys, and its first bind9 pod is a live, unannotated, running
managed pod that `Reconcile` annotates. -/
theorem bind9Cluster_annotatable :
    bind9Cluster.Keyed ∧ bind9Cluster.PodsKeyed ∧
    (Cluster.serve (.getPod ⟨"openstack", "designate-backendbind9-0"⟩) (bind9Cluster, [])).1 =
      .ok { samplePod "designate-backendbind9-0" with resourceVersion := 1 } ∧
    isDesignatePod { samplePod "designate-backendbind9-0" with resourceVersion := 1 } = true ∧
    ({ samplePod "designate-backendbind9-0" with resourceVersion := 1 } : Pod).annotations.get predictableIPKey = "" ∧
    ¬(({ samplePod "designate-backendbind9-0" with resourceVersion := 1 } : Pod).phase = .succeeded ∨
      ({ samplePod "designate-backendbind9-0" with resourceVersion := 1 } : Pod).phase = .failed) ∧
    (Cluster.run (reconcile sampleEnv ⟨"openstack", "designate-backendbind9-0"⟩) bind9Cluster []).1 = .ok () :=
  ⟨(Cluster.keyed_empty.writePod (samplePod "designate-backendbind9-0")).writePod
      (samplePod "designate-backendbind9-1"),
    (Cluster.podsKeyed_empty.writePod (samplePod "designate-backendbind9-0")).writePod
      (samplePod "designate-backendbind9-1"),
    by decide, by decide, by decide, by decide, by decide⟩

theorem nameRule_bad_ordinal :
    isDesignatePod (samplePod "designate-mdns-0a") = true ∧
      extractPodIndexFromName "designate-mdns-0a" =
        .error (.wrap "invalid ordinal in pod name designate-mdns-0a" (.num ⟨"0a", .errSyntax⟩)) ∧
      (Cluster.run (reconcile sampleEnv ⟨"openstack", "designate-mdns-0a"⟩)
        (Cluster.empty.writePod (samplePod "designate-mdns-0a")) []).1 =
        .error (.wrap "invalid ordinal in pod name designate-mdns-0a" (.num ⟨"0a", .errSyntax⟩)) := by
  decide

theorem reconcile_two_pods_one_address :
    ((Cluster.run (reconcile sampleEnv ⟨"openstack", "designate-backendbind9-1"⟩)
        (Cluster.run (reconcile sampleEnv ⟨"openstack", "designate-backendbind9-0"⟩) bind9Cluster []).2 []).2.pods
        ⟨"openstack", "designate-backendbind9-0"⟩).map (fun pod => (pod.deletionTimestamp,
          pod.annotations.get predictableIPKey)) = some (none, "10.0.0.1") ∧
    ((Cluster.run (reconcile sampleEnv ⟨"openstack", "designate-backendbind9-1"⟩)
        (Cluster.run (reconcile sampleEnv ⟨"openstack", "designate-backendbind9-0"⟩) bind9Cluster []).2 []).2.pods
        ⟨"openstack", "designate-backendbind9-1"⟩).map (fun pod => (pod.deletionTimestamp,
          pod.annotations.get predictableIPKey)) = some (none, "10.0.0.1") := by
  decide

/-! ## Merging annotations -/

theorem foldl_insert_lookup (k : String) : ∀ (l : List (Σ _ : String, String)), l.NodupKeys → ∀ m : StrMap,
    (l.foldl (fun m e => m.insert e.1 e.2) m).lookup k = (l.dlookup k).or (m.lookup k)
  | [], _, _ => rfl
  | ⟨k', v⟩ :: l, hl, m => by
    rw [List.foldl_cons, foldl_insert_lookup k l (List.nodupKeys_cons.mp hl).2]
    by_cases h : k = k'
    · subst h
      rw [AList.lookup_insert, List.dlookup_cons_eq,
        List.dlookup_eq_none.mpr (List.not_mem_keys_of_nodupKeys_cons hl)]
      rfl
    · rw [AList.lookup_insert_ne h, List.dlookup_cons_ne _ _ h]

/-- A merged annotation is the new one when there is one, the existing one otherwise. -/
theorem mergeAnnotations_lookup (existing new : StrMap) (k : String) :
    (mergeAnnotations existing new).lookup k = (new.lookup k).or (existing.lookup k) :=
  foldl_insert_lookup k new.entries new.nodupKeys existing

/-! ## The retry loop -/

/-- The pod as last read after the exchanges `pre`: the last pod read, or `pod` when none was read. -/
def latestSnapshot (pod : Pod) (pre : List Exchange) : Pod := (pre.filterMap Exchange.fetchedPod).getLastD pod

/-- The pod last read has the key of every pod read, when they all share it. -/
theorem latestSnapshot_key {pod : Pod} {pre : List Exchange} {k : ObjectKey} (hpod : pod.key = k)
    (h : ∀ y ∈ pre, ∀ q, y.fetchedPod = some q → q.key = k) : (latestSnapshot pod pre).key = k := by
  rw [latestSnapshot, List.getLastD_eq_getLast?]
  cases hl : (pre.filterMap Exchange.fetchedPod).getLast? with
  | none => exact hpod
  | some q =>
    obtain ⟨y, hy, hq⟩ := List.mem_filterMap.mp (List.mem_of_getLast?_eq_some hl)
    exact h y hy q hq

/-- Each update of the exchanges `tr` sends the pod last read before it, or `pod` when none was, with the
annotations merged. -/
def UpdatesFrom (annotations : StrMap) (pod : Pod) (tr : List Exchange) : Prop :=
  ∀ pre x post p, tr = pre ++ x :: post → x.updatedPod = some p → p = mergedPod annotations (latestSnapshot pod pre)

namespace UpdatesFrom

variable {annotations : StrMap} {pod : Pod} {tr : List Exchange}

theorem nil : UpdatesFrom annotations pod [] := fun pre _ post _ h => absurd h.symm (by simp)

/-- An update of the merged pod, then updates from the same pod. -/
theorem update (r : Except StatusError Unit) (h : UpdatesFrom annotations pod tr) :
    UpdatesFrom annotations pod (⟨.updatePod (mergedPod annotations pod), r⟩ :: tr) := by
  intro pre x post p htr hx
  rcases List.cons_eq_append_iff.mp htr with ⟨rfl, htr'⟩ | ⟨pre', rfl, htr'⟩
  · cases (List.cons.inj htr').1
    exact (Option.some.inj hx).symm
  · exact h pre' x post p htr' hx

/-- A read of a pod, then updates from that pod. -/
theorem fetch {x : Exchange} {q : Pod} (hu : x.updatedPod = none) (hf : x.fetchedPod = some q)
    (h : UpdatesFrom annotations q tr) : UpdatesFrom annotations pod (x :: tr) := by
  intro pre y post p htr hy
  rcases List.cons_eq_append_iff.mp htr with ⟨rfl, htr'⟩ | ⟨pre', rfl, htr'⟩
  · cases (List.cons.inj htr').1
    exact absurd (hu.symm.trans hy) (by simp)
  · rw [latestSnapshot, List.filterMap_cons, hf, List.getLastD_cons]
    exact h pre' y post p htr' hy

/-- An exchange that neither updates nor reads a pod. -/
theorem skip {x : Exchange} (hu : x.updatedPod = none) (hf : x.fetchedPod = none) (h : UpdatesFrom annotations pod tr) :
    UpdatesFrom annotations pod (x :: tr) := by
  intro pre y post p htr hy
  rcases List.cons_eq_append_iff.mp htr with ⟨rfl, htr'⟩ | ⟨pre', rfl, htr'⟩
  · cases (List.cons.inj htr').1
    exact absurd (hu.symm.trans hy) (by simp)
  · rw [latestSnapshot, List.filterMap_cons, hf]
    exact h pre' y post p htr' hy

end UpdatesFrom

section Retry

variable (annotations : StrMap) {S : Type} (ans : Responder S)

/-- Every run of the loop with `n` attempts left: each update sends the last pod read with the annotations merged, at
most `n` updates are sent, and the loop succeeds exactly when one of them does. -/
theorem updateAttempts_run : ∀ (n : Nat) (pod : Pod) (s : S),
    UpdatesFrom annotations pod ((updateAttempts annotations n pod).runOn ans s).2.2 ∧
    (((updateAttempts annotations n pod).runOn ans s).2.2.filterMap Exchange.updatedPod).length ≤ n ∧
    (((updateAttempts annotations n pod).runOn ans s).1 = .ok () ↔
      ∃ x ∈ ((updateAttempts annotations n pod).runOn ans s).2.2, x.updateSucceeded = true)
  | 0, pod, s => ⟨UpdatesFrom.nil, le_rfl, by simp [updateAttempts]⟩
  | n + 1, pod, s => by
    simp only [updateAttempts, Client.bind_assoc, send_bind, pure_eq, ret_bind, call_bind, runOn_call]
    generalize ans (.updatePod (mergedPod annotations pod)) s = x
    obtain ⟨r, s₁⟩ := x
    dsimp only
    cases r with
    | ok u =>
      cases u
      exact ⟨UpdatesFrom.nil.update _, by simp, by simp [Except.toBool]⟩
    | error e =>
      by_cases hc : e = .conflict
      · simp only [hc, if_true, runOn_call]
        generalize ans (.getPod (mergedPod annotations pod).key) s₁ = y
        obtain ⟨r', s₂⟩ := y
        dsimp only
        cases r' with
        | error e' =>
          exact ⟨(UpdatesFrom.nil.skip (by rfl) (by rfl)).update _, by simp,
            by simp [Except.toBool]⟩
        | ok fresh =>
          obtain ⟨ih₁, ih₂, ih₃⟩ := updateAttempts_run n fresh s₂
          refine ⟨(ih₁.fetch (by rfl) (by rfl)).update _, ?_, ?_⟩
          · simpa using ih₂
          · simp [Except.toBool, ih₃]
      · simp only [hc, if_false, runOn_ret]
        exact ⟨UpdatesFrom.nil.update _, by simp, by simp [Except.toBool]⟩

/-- When each read of the loop returns the pod asked for, every pod the loop reads has the key of the pod it started
from: it re-reads that key only. -/
theorem updateAttempts_fetched_key : ∀ (n : Nat) (pod : Pod) (s : S),
    (∀ y ∈ ((updateAttempts annotations n pod).runOn ans s).2.2, y.readsOwnKey = true) →
      ∀ y ∈ ((updateAttempts annotations n pod).runOn ans s).2.2, ∀ q, y.fetchedPod = some q → q.key = pod.key
  | 0, _, _, _ => by simp [updateAttempts]
  | n + 1, pod, s, hr => by
    simp only [updateAttempts, Client.bind_assoc, send_bind, pure_eq, ret_bind, call_bind, runOn_call] at hr ⊢
    generalize ans (.updatePod (mergedPod annotations pod)) s = x at hr ⊢
    obtain ⟨r, s₁⟩ := x
    dsimp only at hr ⊢
    rintro y (_ | ⟨_, hy⟩) q hq
    · cases hq
    cases r with
    | ok u => cases hy
    | error e =>
      by_cases hc : e = .conflict
      · simp only [hc, if_true, runOn_call] at hr hy
        generalize ans (.getPod (mergedPod annotations pod).key) s₁ = z at hr hy
        obtain ⟨r', s₂⟩ := z
        cases r' with
        | error e' => rcases hy with _ | ⟨_, ⟨⟩⟩; cases hq
        | ok fresh =>
          have hfresh : fresh.key = pod.key :=
            key_of_readsOwnKey (hr _ (List.mem_cons_of_mem _ (List.mem_cons_self _ _)))
          rcases hy with _ | ⟨_, hy⟩
          · cases hq; exact hfresh
          · exact (updateAttempts_fetched_key n fresh s₂
              (fun y hy => hr y (List.mem_cons_of_mem _ (List.mem_cons_of_mem _ hy))) y hy q hq).trans hfresh
      · simp only [hc, if_false, runOn_ret] at hy
        cases hy

end Retry

/-- **The retry loop.** Against any server, every update `updatePodAnnotationsWithRetry` sends is the pod last read
before it (the snapshot it was given, or the last re-read pod) with its annotations overridden by the new ones: the
other annotations keep their values and the resource version is the snapshot's. It sends at most `maxRetries`
updates, and it succeeds exactly when one of them does. -/
theorem updatePodAnnotationsWithRetry_updates (pod : Pod) (annotations : StrMap) {S : Type} (ans : Responder S)
    (s : S) :
    (∀ pre x post p, ((updatePodAnnotationsWithRetry pod annotations).runOn ans s).2.2 = pre ++ x :: post →
      x.updatedPod = some p →
        p = mergedPod annotations (latestSnapshot pod pre) ∧
          p.resourceVersion = (latestSnapshot pod pre).resourceVersion ∧
          ∀ k, p.annotations.lookup k = (annotations.lookup k).or ((latestSnapshot pod pre).annotations.lookup k)) ∧
    (((updatePodAnnotationsWithRetry pod annotations).runOn ans s).2.2.filterMap Exchange.updatedPod).length ≤
      maxRetries ∧
    (((updatePodAnnotationsWithRetry pod annotations).runOn ans s).1 = .ok () ↔
      ∃ x ∈ ((updatePodAnnotationsWithRetry pod annotations).runOn ans s).2.2, x.updateSucceeded = true) := by
  obtain ⟨h₁, h₂, h₃⟩ := updateAttempts_run annotations ans maxRetries pod s
  refine ⟨fun pre x post p htr hx => ?_, h₂, h₃⟩
  obtain rfl := h₁ pre x post p htr hx
  exact ⟨rfl, rfl, mergeAnnotations_lookup _ _⟩

/-! ## Annotating live pods -/

/-- The annotations `createIPSetAnnotations` returns: the Multus network of the address `AllocateIP` returned, the
address, the pod index and the ipset. -/
theorem createIPSetAnnotations_allocateIP (D : Pkg) (networkName interfaceName : String) (podIndex : Int)
    (predParams : NADIpam) {S : Type} (ans : Responder S) (s : S) {annotations : StrMap}
    (h : ((createIPSetAnnotations D networkName interfaceName podIndex predParams).runOn ans s).1 = .ok annotations) :
    ∃ a multus, (((IPSetManager.mk ("designate-" ++ networkName) "openstack").allocateIP D predParams.cidr
        podIndex).runOn ans s).1 = .ok a ∧
      Designate.createMultusAnnotation [{ name := networkName, interface := interfaceName, ips := [a] }] =
        .ok multus ∧
      annotations = ((((∅ : StrMap).insert networksKey multus).insert predictableIPKey a).insert podIndexKey
        (toString podIndex)).insert ipsetNameKey ("designate-" ++ networkName) := by
  simp only [createIPSetAnnotations, runOn_bind] at h
  generalize ((IPSetManager.mk ("designate-" ++ networkName) "openstack").allocateIP D predParams.cidr podIndex).runOn
    ans s = x at h ⊢
  obtain ⟨r, s', tr⟩ := x
  cases r with
  | error e => cases h
  | ok a =>
    dsimp only at h
    cases hm : Designate.createMultusAnnotation [{ name := networkName, interface := interfaceName, ips := [a] }] with
    | error e => simp [hm] at h
    | ok multus =>
      simp only [hm, pure_eq, runOn_ret, Except.ok.injEq] at h
      exact ⟨a, multus, rfl, hm, h.symm⟩

theorem createIPSetAnnotations_ok (D : Pkg) (networkName interfaceName : String) (podIndex : Int)
    (predParams : NADIpam) {S : Type} (ans : Responder S) (s : S) {annotations : StrMap}
    (h : ((createIPSetAnnotations D networkName interfaceName podIndex predParams).runOn ans s).1 = .ok annotations) :
    ∃ a multus, Designate.createMultusAnnotation [{ name := networkName, interface := interfaceName, ips := [a] }] =
        .ok multus ∧
      annotations = ((((∅ : StrMap).insert networksKey multus).insert predictableIPKey a).insert podIndexKey
        (toString podIndex)).insert ipsetNameKey ("designate-" ++ networkName) :=
  let ⟨a, multus, _, hm, hN⟩ :=
    createIPSetAnnotations_allocateIP D networkName interfaceName podIndex predParams ans s h
  ⟨a, multus, hm, hN⟩

theorem annotations_lookup (multus a idx ipsetName : String) :
    let N := ((((∅ : StrMap).insert networksKey multus).insert predictableIPKey a).insert podIndexKey idx).insert
      ipsetNameKey ipsetName
    N.lookup networksKey = some multus ∧ N.lookup predictableIPKey = some a ∧ N.lookup podIndexKey = some idx ∧
      N.lookup ipsetNameKey = some ipsetName := by
  simp [networksKey, predictableIPKey, podIndexKey, ipsetNameKey, AList.lookup_insert_ne, -AList.insert_empty]

/-- **A successful annotation is recorded.** Against any server whose pod reads in the run return the pod asked for,
when `Reconcile` of a live, unannotated, non-terminal managed pod succeeds, one of its updates succeeded, and it sent
the pod `req` with the four annotations: the Multus network naming the same address as the predictable IP
annotation, the pod's ordinal, and the ipset `designate-<network>` of that network. -/
theorem reconcile_annotates (E : Env) (req : ObjectKey) {S : Type} (ans : Responder S) (s : S) {pod : Pod}
    (hpod : (ans (.getPod req) s).1 = .ok pod) (hd : isDesignatePod pod = true)
    (hlive : pod.deletionTimestamp = none) (hnew : pod.annotations.get predictableIPKey = "")
    (hphase : ¬(pod.phase = .succeeded ∨ pod.phase = .failed))
    (hok : ((reconcile E req).runOn ans s).1 = .ok ())
    (hreads : ∀ y ∈ ((reconcile E req).runOn ans s).2.2, y.readsOwnKey = true) :
    ∃ podIndex network a multus x p, extractPodIndexFromName pod.name = .ok podIndex ∧
      Designate.createMultusAnnotation [{ name := network, interface := "designate", ips := [a] }] = .ok multus ∧
      x ∈ ((reconcile E req).runOn ans s).2.2 ∧ x.updateSucceeded = true ∧ x.updatedPod = some p ∧ p.key = req ∧
      p.annotations.lookup networksKey = some multus ∧ p.annotations.lookup predictableIPKey = some a ∧
      p.annotations.lookup podIndexKey = some (toString podIndex) ∧
      p.annotations.lookup ipsetNameKey = some ("designate-" ++ network) := by
  have hkey : pod.key = req := key_of_readsOwnKey (hreads ⟨.getPod req, .ok pod⟩ (hpod ▸ List.mem_of_mem_head? rfl))
  simp only [reconcile, send_bind, runOn_call] at hok hreads ⊢
  rw [hpod] at hok hreads ⊢
  simp only [hd, hlive, hnew, hphase, Bool.not_true, Bool.false_eq_true, Option.isSome_none, ne_eq,
    not_true_eq_false, ↓reduceIte] at hok hreads ⊢
  generalize (ans (.getPod req) s).2 = s₁ at hok hreads ⊢
  cases hidx : extractPodIndexFromName pod.name with
  | error e => simp only [hidx, pure_eq, runOn_ret] at hok; cases hok
  | ok podIndex =>
    simp only [hidx, runOn_bind] at hok hreads ⊢
    generalize (getParentDesignate pod).runOn ans s₁ = x at hok hreads ⊢
    obtain ⟨rp, s₂, tr₁⟩ := x
    cases rp with
    | error e => cases hok
    | ok parent =>
      dsimp only at hok hreads ⊢
      cases hpp : E.predictableIPParams parent.designateNetworkAttachment pod.ns with
      | error e => simp only [hpp, pure_eq, runOn_ret] at hok; cases hok
      | ok params =>
        simp only [hpp, runOn_bind] at hok hreads ⊢
        generalize hc : (createIPSetAnnotations E.pkg parent.designateNetworkAttachment "designate" podIndex
          params).runOn ans s₂ = y at hok hreads ⊢
        obtain ⟨ra, s₃, tr₂⟩ := y
        cases ra with
        | error e => cases hok
        | ok N =>
          obtain ⟨a, multus, hm, rfl⟩ := createIPSetAnnotations_ok _ _ _ _ _ ans s₂ (by rw [hc])
          dsimp only at hok hreads ⊢
          obtain ⟨hU, -, hS⟩ := updateAttempts_run _ ans maxRetries pod s₃
          obtain ⟨x, hx, hsucc⟩ := hS.mp hok
          obtain ⟨p, hp⟩ := updatedPod_of_updateSucceeded hsucc
          obtain ⟨pre, post, hsplit⟩ := List.append_of_mem hx
          obtain rfl := hU pre x post p hsplit hp
          have hloop := fun y hy => hreads y (List.mem_cons_of_mem _ (List.mem_append_right _
            (List.mem_append_right _ hy)))
          obtain ⟨h₁, h₂, h₃, h₄⟩ := annotations_lookup multus a (toString podIndex)
            ("designate-" ++ parent.designateNetworkAttachment)
          refine ⟨podIndex, _, a, multus, x, _, rfl, hm, List.mem_cons_of_mem _ (List.mem_append_right _
            (List.mem_append_right _ hx)), hsucc, hp, latestSnapshot_key hkey fun y hy q hq =>
              (updateAttempts_fetched_key _ ans maxRetries pod s₃ hloop y (hsplit ▸ List.mem_append_left _ hy) q
                hq).trans hkey, ?_⟩
          simp only [mergedPod, mergeAnnotations_lookup, h₁, h₂, h₃, h₄, Option.or_some, and_self]

theorem reconcile_annotates_sample :
    (Cluster.serve (.getPod ⟨"openstack", "designate-backendbind9-0"⟩) (bind9Cluster, [])).1 =
      .ok { samplePod "designate-backendbind9-0" with resourceVersion := 1 } ∧
    isDesignatePod { samplePod "designate-backendbind9-0" with resourceVersion := 1 } = true ∧
    ({ samplePod "designate-backendbind9-0" with resourceVersion := 1 } : Pod).deletionTimestamp = none ∧
    ({ samplePod "designate-backendbind9-0" with resourceVersion := 1 } : Pod).annotations.get predictableIPKey = "" ∧
    ¬(({ samplePod "designate-backendbind9-0" with resourceVersion := 1 } : Pod).phase = .succeeded ∨
      ({ samplePod "designate-backendbind9-0" with resourceVersion := 1 } : Pod).phase = .failed) ∧
    ((reconcile sampleEnv ⟨"openstack", "designate-backendbind9-0"⟩).runOn Cluster.serve (bind9Cluster, [])).1 =
      .ok () ∧
    (∀ y ∈ ((reconcile sampleEnv ⟨"openstack", "designate-backendbind9-0"⟩).runOn Cluster.serve
      (bind9Cluster, [])).2.2, y.readsOwnKey = true) ∧
    ∃ x ∈ ((reconcile sampleEnv ⟨"openstack", "designate-backendbind9-0"⟩).runOn Cluster.serve (bind9Cluster, [])).2.2,
      x.updateSucceeded = true ∧ x.updatedPod.map Pod.key = some ⟨"openstack", "designate-backendbind9-0"⟩ :=
  (fun hpod hd hlive hnew hphase hok hreads => ⟨hpod, hd, hlive, hnew, hphase, hok, hreads,
    match reconcile_annotates sampleEnv _ _ _ hpod hd hlive hnew hphase hok hreads with
    | ⟨_, _, _, _, x, _, _, _, hx, hs, hp, hk, _⟩ => ⟨x, hx, hs, by rw [hp, ← hk]; rfl⟩⟩)
    (by decide) (by decide) rfl (by decide) (by decide) (by decide) (by decide)

/-! ## Deleted pods -/

section Deletion

variable {S : Type} (ans : Responder S)

/-- `handlePodDeletion` succeeds whatever the release does. -/
theorem handlePodDeletion_ok (pod : Pod) (s : S) : ((handlePodDeletion pod).runOn ans s).1 = .ok () := by
  unfold handlePodDeletion
  dsimp only
  split
  · simp only [runOn_bind, pure_eq, runOn_ret]
  · rfl

/-- **A deletion is always reported as done.** Against any server, `Reconcile` of a managed pod that is being deleted
succeeds, whether its address was released or not. -/
theorem reconcile_deleting_ok (E : Env) (req : ObjectKey) (s : S) {pod : Pod}
    (hpod : (ans (.getPod req) s).1 = .ok pod) (hd : isDesignatePod pod = true)
    (hdel : pod.deletionTimestamp.isSome = true) : ((reconcile E req).runOn ans s).1 = .ok () := by
  simp only [reconcile, send_bind, runOn_call, hpod, hd, hdel, Bool.not_true, if_true]
  exact handlePodDeletion_ok ans pod _

/-- The store after `Reconcile` of a managed pod being deleted is the store after the release of its address. -/
theorem reconcile_deleting_store (E : Env) (req : ObjectKey) {σ : Cluster} (fs : List Cluster.Fault) {pod : Pod}
    (hpod : (Cluster.serve (.getPod req) (σ, fs)).1 = .ok pod) (hd : isDesignatePod pod = true)
    (hdel : pod.deletionTimestamp.isSome = true) (hip : pod.annotations.get predictableIPKey ≠ "")
    (hset : pod.annotations.get ipsetNameKey ≠ "") :
    (Cluster.run (reconcile E req) σ fs).2 =
      (Cluster.run ((IPSetManager.mk (pod.annotations.get ipsetNameKey) "openstack").releaseIP
        (pod.annotations.get predictableIPKey)) σ fs.tail).2 := by
  simp only [Cluster.run, reconcile, send_bind, runOn_call]
  rw [Cluster.serve_getPod, hpod]
  simp only [hd, hdel, Bool.not_true, Bool.false_eq_true, ↓reduceIte, handlePodDeletion, hip, hset, ne_eq,
    not_false_eq_true, and_self, runOn_bind, pure_eq, runOn_ret]

end Deletion

/-- **Releases are best effort.** `Reconcile` of a managed pod being deleted, with both annotations, on the store with
any faults, succeeds; its ipset is left as it was (a read or the update of the release failed, or no entry holds the
address) or loses the first entry holding the address; without faults it loses that entry whenever there is one. -/
theorem reconcile_deleting_release (E : Env) (req : ObjectKey) {σ : Cluster} (hσ : σ.Keyed) (fs : List Cluster.Fault)
    {pod : Pod} (hpod : (Cluster.serve (.getPod req) (σ, fs)).1 = .ok pod) (hd : isDesignatePod pod = true)
    (hdel : pod.deletionTimestamp.isSome = true) (hip : pod.annotations.get predictableIPKey ≠ "")
    (hset : pod.annotations.get ipsetNameKey ≠ "") :
    (Cluster.run (reconcile E req) σ fs).1 = .ok () ∧
    ((Cluster.run (reconcile E req) σ fs).2 = σ ∨
      ∃ cm e, σ.configMaps ⟨"openstack", pod.annotations.get ipsetNameKey⟩ = some cm ∧
        cm.data.entries.find? (·.2 = pod.annotations.get predictableIPKey) = some e ∧
        (Cluster.run (reconcile E req) σ fs).2 = σ.writeConfigMap { cm with data := cm.data.erase e.1 }) ∧
    (fs = [] → ∀ cm e, σ.configMaps ⟨"openstack", pod.annotations.get ipsetNameKey⟩ = some cm →
      cm.data.entries.find? (·.2 = pod.annotations.get predictableIPKey) = some e →
      (Cluster.run (reconcile E req) σ fs).2 = σ.writeConfigMap { cm with data := cm.data.erase e.1 }) := by
  rw [reconcile_deleting_store E req fs hpod hd hdel hip hset]
  refine ⟨reconcile_deleting_ok _ E req _ hpod hd hdel, releaseIP_store hσ _ _, ?_⟩
  rintro rfl cm e hcm he
  exact releaseIP_store_of_mem hσ hcm he

theorem reconcile_deleting_release_sample :
    deletionCluster.Keyed ∧
      (Cluster.serve (.getPod deletedPod.key) (deletionCluster, [])).1 = .ok { deletedPod with resourceVersion := 1 } ∧
      isDesignatePod { deletedPod with resourceVersion := 1 } = true ∧
      ({ deletedPod with resourceVersion := 1 } : Pod).deletionTimestamp.isSome = true ∧
      ({ deletedPod with resourceVersion := 1 } : Pod).annotations.get predictableIPKey ≠ "" ∧
      ({ deletedPod with resourceVersion := 1 } : Pod).annotations.get ipsetNameKey ≠ "" ∧
      (Cluster.run (reconcile sampleEnv deletedPod.key) deletionCluster []).1 = .ok () :=
  (fun hσ hpod hd hdel hip hset =>
    ⟨hσ, hpod, hd, hdel, hip, hset, (reconcile_deleting_release sampleEnv _ hσ [] hpod hd hdel hip hset).1⟩)
    (show deletionCluster.Keyed from (Cluster.keyed_empty.writePod _).writeConfigMap _) (by decide) (by decide) rfl
    (by decide) (by decide)

theorem reconcile_release_conflict_ok :
    (Cluster.run (reconcile sampleEnv deletedPod.key) deletionCluster [none, none, some .conflict]).1 = .ok () ∧
      (Cluster.run (reconcile sampleEnv deletedPod.key) deletionCluster [none, none, some .conflict]).2.dataAt
        sampleSet.key = some ((∅ : StrMap).insert (podKey 0) "10.0.0.1") := by
  decide

/-! ## What `Reconcile` does to the ConfigMaps -/

section Store

open Cluster

/-- The retry loop writes pods only. -/
theorem updateAttempts_configMaps (annotations : StrMap) :
    ∀ (n : Nat) (pod : Pod) (s : Cluster × List Fault),
      ((updateAttempts annotations n pod).runOn serve s).2.1.1.configMaps = s.1.configMaps
  | 0, _, _ => rfl
  | n + 1, pod, (σ, fs) => by
    simp only [updateAttempts, Client.bind_assoc, send_bind, pure_eq, ret_bind, call_bind, runOn_call]
    have h₁ := serve_configMaps (answer_updatePod_configMaps (σ := σ) (mergedPod annotations pod)) fs
    generalize serve (.updatePod (mergedPod annotations pod)) (σ, fs) = x at h₁ ⊢
    obtain ⟨r, σ₁, fs₁⟩ := x
    dsimp only at h₁ ⊢
    cases r with
    | ok u => exact h₁
    | error e =>
      dsimp only
      split
      · simp only [runOn_call]
        have h₂ := serve_configMaps (σ := σ₁) (r := .getPod (mergedPod annotations pod).key)
          (by rw [answer_getPod_snd]) fs₁
        generalize serve (.getPod (mergedPod annotations pod).key) (σ₁, fs₁) = y at h₂ ⊢
        obtain ⟨r', σ₂, fs₂⟩ := y
        dsimp only at h₂ ⊢
        cases r' with
        | error e' => exact h₂.trans h₁
        | ok fresh => exact (updateAttempts_configMaps annotations n fresh _).trans (h₂.trans h₁)
      · exact h₁

theorem getParentDesignate_state (pod : Pod) (σ : Cluster) (fs : List Fault) :
    ((getParentDesignate pod).runOn serve (σ, fs)).2.1 = (σ, fs.tail) := by
  simp only [getParentDesignate, send_bind, runOn_call, pure_eq]
  rcases serve_cases (.listDesignates pod.ns) σ fs with h | ⟨e, h⟩ <;> rw [h] <;> dsimp only
  · split <;> rfl
  · rfl

/-- The parent found on the store is the first `Designate` of the pod's namespace. -/
theorem getParentDesignate_ok {pod : Pod} {σ : Cluster} {fs : List Fault} {parent : Designate}
    (h : ((getParentDesignate pod).runOn serve (σ, fs)).1 = .ok parent) :
    (σ.designates pod.ns).head? = some parent := by
  simp only [getParentDesignate, send_bind, runOn_call, pure_eq] at h
  rcases serve_cases (.listDesignates pod.ns) σ fs with h' | ⟨e, h'⟩ <;> rw [h'] at h <;> dsimp only at h
  · cases hd : σ.designates pod.ns <;> simp_all [Cluster.answer]
  · cases h

theorem createIPSetAnnotations_state (D : Pkg) (networkName interfaceName : String) (podIndex : Int)
    (predParams : NADIpam) (s : Cluster × List Fault) :
    ((createIPSetAnnotations D networkName interfaceName podIndex predParams).runOn serve s).2.1 =
      (((IPSetManager.mk ("designate-" ++ networkName) "openstack").allocateIP D predParams.cidr podIndex).runOn
        serve s).2.1 := by
  simp only [createIPSetAnnotations, runOn_bind]
  split
  · rfl
  · split <;> rfl

/-- The retry loop writes no pod but the one it updates, on a store that keeps pods under their keys. -/
theorem updateAttempts_pods (annotations : StrMap) {req : ObjectKey} :
    ∀ (n : Nat) (pod : Pod) (s : Cluster × List Fault), pod.key = req → s.1.PodsKeyed →
      ∀ k, k ≠ req → ((updateAttempts annotations n pod).runOn serve s).2.1.1.pods k = s.1.pods k
  | 0, _, _, _, _, _, _ => rfl
  | n + 1, pod, (σ, fs), hkey, hσ, k, hk => by
    simp only [updateAttempts, Client.bind_assoc, send_bind, pure_eq, ret_bind, call_bind, runOn_call]
    have h₁ : (serve (.updatePod (mergedPod annotations pod)) (σ, fs)).2.1.pods k = σ.pods k := by
      rcases serve_cases (.updatePod (mergedPod annotations pod)) σ fs with h | ⟨e, h⟩ <;> rw [h]
      exact answer_updatePod_pods_of_ne _ (hkey ▸ hk)
    have hσ₁ := hσ.serve (.updatePod (mergedPod annotations pod)) fs
    generalize serve (.updatePod (mergedPod annotations pod)) (σ, fs) = x at h₁ hσ₁ ⊢
    obtain ⟨r, σ₁, fs₁⟩ := x
    dsimp only at h₁ hσ₁ ⊢
    cases r with
    | ok u => exact h₁
    | error e =>
      dsimp only
      split
      · simp only [runOn_call]
        rw [serve_getPod]
        generalize hr : (serve (.getPod (mergedPod annotations pod).key) (σ₁, fs₁)).1 = r'
        cases r' with
        | error e' => exact h₁
        | ok fresh =>
          have hfresh : fresh.key = req := (hσ₁ _ _ (serve_getPod_ok hr)).trans hkey
          exact (updateAttempts_pods annotations n fresh _ hfresh hσ₁ k hk).trans h₁
      · exact h₁

/-- Without another writer, the retry loop fails and leaves the pod under `req` as it was, or succeeds and stores it
with the annotations merged in: the pod it re-reads after a failed update is the one it started from. -/
theorem updateAttempts_pod_store (annotations : StrMap) {req : ObjectKey} :
    ∀ (n : Nat) (pod : Pod) (s : Cluster × List Fault), pod.key = req → s.1.pods req = some pod →
      (((updateAttempts annotations n pod).runOn serve s).1 ≠ .ok () ∧
          ((updateAttempts annotations n pod).runOn serve s).2.1.1.pods req = some pod) ∨
        (((updateAttempts annotations n pod).runOn serve s).1 = .ok () ∧
          ∃ v, ((updateAttempts annotations n pod).runOn serve s).2.1.1.pods req =
            some { mergedPod annotations pod with resourceVersion := v })
  | 0, _, _, _, h => .inl ⟨by simp [updateAttempts], h⟩
  | n + 1, pod, (σ, fs), hkey, hpod => by
    have hcur : σ.pods (mergedPod annotations pod).key = some pod := hkey ▸ hpod
    simp only [updateAttempts, Client.bind_assoc, send_bind, pure_eq, ret_bind, call_bind, runOn_call]
    rcases serve_cases (.updatePod (mergedPod annotations pod)) σ fs with h | ⟨e, h⟩ <;> rw [h] <;> dsimp only
    · -- the stored pod has the version the update carries
      have hans :
          σ.answer (.updatePod (mergedPod annotations pod)) = (.ok (), σ.writePod (mergedPod annotations pod)) := by
        simp only [Cluster.answer, hcur]; exact if_pos rfl
      rw [hans]
      exact .inr ⟨rfl, σ.revision, by simp only [Cluster.writePod, ← hkey]; exact Function.update_same _ _ _⟩
    · split
      · simp only [runOn_call]
        rcases serve_cases (.getPod (mergedPod annotations pod).key) σ fs.tail with h' | ⟨e', h'⟩ <;> rw [h'] <;>
          dsimp only
        · rw [show σ.answer (.getPod (mergedPod annotations pod).key) = (.ok pod, σ) by
            simp only [Cluster.answer, hcur]]
          exact updateAttempts_pod_store annotations n pod _ hkey hpod
        · exact .inl ⟨by simp, hpod⟩
      · exact .inl ⟨by simp, hpod⟩

/-- The annotations `Reconcile` sets on a pod. -/
def reconcileKeys : List String := [networksKey, predictableIPKey, podIndexKey, ipsetNameKey]

/-- `p'` is `p` but for its resource version and its annotations of the keys `keys`. -/
def Pod.SameBut (keys : List String) (p p' : Pod) : Prop :=
  { p' with annotations := ∅, resourceVersion := 0 } = { p with annotations := ∅, resourceVersion := 0 } ∧
    ∀ k, k ∉ keys → p'.annotations.lookup k = p.annotations.lookup k

theorem Pod.SameBut.refl (keys : List String) (p : Pod) : Pod.SameBut keys p p := ⟨rfl, fun _ _ => rfl⟩

theorem sameBut_mergedPod {keys : List String} {annotations : StrMap} (hN : ∀ k, k ∉ keys → annotations.lookup k = none)
    (pod : Pod) (v : Nat) : Pod.SameBut keys pod { mergedPod annotations pod with resourceVersion := v } :=
  ⟨rfl, fun k hk => by simp only [mergedPod, mergeAnnotations_lookup, hN k hk, Option.none_or]⟩

/-- The map `createIPSetAnnotations` returns holds no other key. -/
theorem lookup_annotations_of_not_mem (multus a idx ipsetName : String) {k : String} (hk : k ∉ reconcileKeys) :
    (((((∅ : StrMap).insert networksKey multus).insert predictableIPKey a).insert podIndexKey idx).insert
      ipsetNameKey ipsetName).lookup k = none := by
  simp only [reconcileKeys, List.mem_cons, List.not_mem_nil, or_false, not_or] at hk
  simp [AList.lookup_insert_ne, hk.1, hk.2.1, hk.2.2.1, hk.2.2.2, -AList.insert_empty]

/-- The writes `Reconcile(req)` may make, from `σ` to `σ'`: one ConfigMap, an ipset of namespace `openstack`; and
the pod `req`, only in its resource version and the annotations of `reconcileKeys`. -/
def ReconcileFrame (req : ObjectKey) (σ σ' : Cluster) : Prop :=
  (∃ name, ∀ k, k ≠ ⟨"openstack", name⟩ → σ'.configMaps k = σ.configMaps k) ∧
    (∀ k, k ≠ req → σ'.pods k = σ.pods k) ∧ Option.Rel (Pod.SameBut reconcileKeys) (σ.pods req) (σ'.pods req)

theorem ReconcileFrame.refl (req : ObjectKey) (σ : Cluster) : ReconcileFrame req σ σ := by
  refine ⟨⟨"", fun _ _ => rfl⟩, fun _ _ => rfl, ?_⟩
  cases σ.pods req
  · exact .none
  · exact .some (Pod.SameBut.refl _ _)

/-- A run that writes no pod and at most one ipset of namespace `openstack`. -/
theorem ReconcileFrame.of_ipset {req : ObjectKey} {σ σ' : Cluster} {name : String} (hp : σ'.pods = σ.pods)
    (hc : ∀ k, k ≠ ⟨"openstack", name⟩ → σ'.configMaps k = σ.configMaps k) : ReconcileFrame req σ σ' := by
  refine ⟨⟨name, hc⟩, fun k _ => congrFun hp k, ?_⟩
  rw [hp]
  exact (ReconcileFrame.refl req σ).2.2

/-- **What `Reconcile` can write.** On a store that keeps every object under its own key, with any faults,
`Reconcile(req)` changes at most one ConfigMap, an ipset of namespace `openstack` whatever the pod's namespace; no pod
other than `req`; and of the pod `req` nothing but its resource version and its four annotations of `reconcileKeys`:
its labels, owners, phase, deletion timestamp and every other annotation keep their values. -/
theorem reconcile_frame (E : Env) (req : ObjectKey) {σ : Cluster} (hσ : σ.Keyed) (hpods : σ.PodsKeyed)
    (fs : List Fault) : ReconcileFrame req σ (Cluster.run (reconcile E req) σ fs).2 := by
  simp only [Cluster.run, reconcile, send_bind, runOn_call]
  rw [serve_getPod]
  generalize hr : (serve (.getPod req) (σ, fs)).1 = r
  cases r with
  | error e => dsimp only; split <;> exact ReconcileFrame.refl req σ
  | ok pod =>
    have hstored : σ.pods req = some pod := serve_getPod_ok hr
    have hkey : pod.key = req := hpods _ _ hstored
    dsimp only
    split_ifs
    · exact ReconcileFrame.refl req σ
    · simp only [handlePodDeletion]
      split_ifs
      · simp only [runOn_bind, pure_eq, runOn_ret]
        obtain ⟨hp, hc⟩ := releaseIP_frame (m := ⟨pod.annotations.get ipsetNameKey, "openstack"⟩) hσ
          (pod.annotations.get predictableIPKey) fs.tail
        exact .of_ipset hp hc
      · exact ReconcileFrame.refl req σ
    · exact ReconcileFrame.refl req σ
    · exact ReconcileFrame.refl req σ
    · split
      · exact ReconcileFrame.refl req σ
      · simp only [runOn_bind, getParentDesignate_state]
        split
        · exact ReconcileFrame.refl req σ
        · split
          · exact ReconcileFrame.refl req σ
          · rename_i podIndex _ _ parent _ _ params _
            have hstate := createIPSetAnnotations_state E.pkg parent.designateNetworkAttachment "designate" podIndex
              params (σ, fs.tail.tail)
            obtain ⟨hp, hc⟩ := allocateIP_frame (D := E.pkg)
              (m := ⟨"designate-" ++ parent.designateNetworkAttachment, "openstack"⟩) hσ params.cidr podIndex
              fs.tail.tail
            simp only [runOn_bind]
            split
            · rw [hstate]
              exact .of_ipset hp hc
            · rename_i N hN
              obtain ⟨a, multus, -, rfl⟩ := createIPSetAnnotations_ok _ _ _ _ _ serve _ hN
              simp only [Cluster.run] at hp hc
              rw [hstate]
              generalize ((IPSetManager.mk ("designate-" ++ parent.designateNetworkAttachment) "openstack").allocateIP
                E.pkg params.cidr podIndex).runOn serve (σ, fs.tail.tail) = y at hp hc ⊢
              obtain ⟨_, ⟨σ₃, fs₃⟩, _⟩ := y
              dsimp only at hp hc ⊢
              refine ⟨⟨_, fun k hk => (congrFun (updateAttempts_configMaps _ _ _ _) k).trans (hc k hk)⟩,
                fun k hk => (updateAttempts_pods _ _ _ _ hkey (hpods.congr hp) k hk).trans (congrFun hp k), ?_⟩
              rw [hstored, updatePodAnnotationsWithRetry]
              rcases updateAttempts_pod_store _ maxRetries pod (σ₃, fs₃) hkey (by rw [hp]; exact hstored) with
                ⟨-, h⟩ | ⟨-, v, h⟩ <;> rw [h]
              · exact .some (Pod.SameBut.refl _ _)
              · exact .some (sameBut_mergedPod (fun k hk => lookup_annotations_of_not_mem _ _ _ _ hk) pod v)

theorem reconcile_frame_sample :
    bind9Cluster.Keyed ∧ bind9Cluster.PodsKeyed ∧
      ReconcileFrame ⟨"openstack", "designate-backendbind9-0"⟩ bind9Cluster
        (Cluster.run (reconcile sampleEnv ⟨"openstack", "designate-backendbind9-0"⟩) bind9Cluster []).2 := by
  obtain ⟨hσ, hp, -⟩ := bind9Cluster_annotatable
  exact ⟨hσ, hp, reconcile_frame sampleEnv _ hσ hp []⟩

/-- The success path of `Reconcile` on the store. When `Reconcile(req)` of a live, unannotated, non-terminal managed
pod succeeds, its parent is the first `Designate` of its namespace, and the store holds the pod with the four
annotations merged in: the Multus network, on the parent's attachment, of the address that `AllocateIP` returned, run
from `σ` on the ipset of that attachment; that address; the pod's ordinal; and that ipset. -/
theorem reconcile_ok_stored (E : Env) (req : ObjectKey) {σ : Cluster} (hσ : σ.Keyed) (hpods : σ.PodsKeyed)
    (fs : List Fault) {pod : Pod} (hpod : (serve (.getPod req) (σ, fs)).1 = .ok pod) (hd : isDesignatePod pod = true)
    (hlive : pod.deletionTimestamp = none) (hnew : pod.annotations.get predictableIPKey = "")
    (hphase : ¬(pod.phase = .succeeded ∨ pod.phase = .failed)) (hok : (Cluster.run (reconcile E req) σ fs).1 = .ok ()) :
    ∃ podIndex parent pfx fs' a multus v, (σ.designates pod.ns).head? = some parent ∧
      extractPodIndexFromName pod.name = .ok podIndex ∧
      (Cluster.run ((IPSetManager.mk ("designate-" ++ parent.designateNetworkAttachment) "openstack").allocateIP
        E.pkg pfx podIndex) σ fs').1 = .ok a ∧
      Designate.createMultusAnnotation
        [{ name := parent.designateNetworkAttachment, interface := "designate", ips := [a] }] = .ok multus ∧
      (Cluster.run (reconcile E req) σ fs).2.pods req =
        some { mergedPod (((((∅ : StrMap).insert networksKey multus).insert predictableIPKey a).insert podIndexKey
          (toString podIndex)).insert ipsetNameKey ("designate-" ++ parent.designateNetworkAttachment)) pod with
          resourceVersion := v } := by
  have hstored : σ.pods req = some pod := serve_getPod_ok hpod
  have hkey : pod.key = req := hpods _ _ hstored
  simp only [Cluster.run, reconcile, send_bind, runOn_call] at hok ⊢
  rw [serve_getPod, hpod] at hok ⊢
  simp only [hd, hlive, hnew, hphase, Bool.not_true, Bool.false_eq_true, Option.isSome_none, ne_eq,
    not_true_eq_false, ↓reduceIte] at hok ⊢
  cases hidx : extractPodIndexFromName pod.name with
  | error e => simp only [hidx, pure_eq, runOn_ret] at hok; cases hok
  | ok podIndex =>
    simp only [hidx, runOn_bind, getParentDesignate_state] at hok ⊢
    generalize hrp : ((getParentDesignate pod).runOn serve (σ, fs.tail)).1 = rp at hok ⊢
    cases rp with
    | error e => cases hok
    | ok parent =>
      dsimp only at hok ⊢
      cases hpp : E.predictableIPParams parent.designateNetworkAttachment pod.ns with
      | error e => simp only [hpp, pure_eq, runOn_ret] at hok; cases hok
      | ok params =>
        simp only [hpp, runOn_bind, createIPSetAnnotations_state] at hok ⊢
        obtain ⟨hp, -⟩ := allocateIP_frame (D := E.pkg)
          (m := ⟨"designate-" ++ parent.designateNetworkAttachment, "openstack"⟩) hσ params.cidr podIndex fs.tail.tail
        simp only [Cluster.run] at hp
        generalize hc : (createIPSetAnnotations E.pkg parent.designateNetworkAttachment "designate" podIndex
          params).runOn serve (σ, fs.tail.tail) = y at hok ⊢
        obtain ⟨ra, s₃, tr₂⟩ := y
        cases ra with
        | error e => cases hok
        | ok N =>
          obtain ⟨a, multus, ha, hm, rfl⟩ := createIPSetAnnotations_allocateIP _ _ _ _ _ serve _ (by rw [hc])
          dsimp only at hok ⊢
          generalize ((IPSetManager.mk ("designate-" ++ parent.designateNetworkAttachment) "openstack").allocateIP
            E.pkg params.cidr podIndex).runOn serve (σ, fs.tail.tail) = z at hp hok ⊢
          obtain ⟨_, ⟨σ₃, fs₃⟩, _⟩ := z
          dsimp only at hp hok ⊢
          rcases updateAttempts_pod_store _ maxRetries pod (σ₃, fs₃) hkey (by rw [hp]; exact hstored) with
            ⟨hne, -⟩ | ⟨-, v, h⟩
          · exact absurd hok hne
          · exact ⟨podIndex, parent, params.cidr, fs.tail.tail, a, multus, v, getParentDesignate_ok hrp, rfl, ha, hm, h⟩

/-- **What a successful annotation leaves in the store.** On a store that keeps every object under its own key, with
any faults, when `Reconcile(req)` reads a live, unannotated, non-terminal managed pod and succeeds, the store holds the
pod with nothing changed but its resource version and its four annotations. Its parent `Designate` is the first of
its namespace; its Multus annotation, read as Multus reads it, is the one network of that parent's attachment, on
interface `designate`, with the address of its predictable IP annotation; its ipset annotation names that
attachment's ipset; its pod index annotation is its ordinal. -/
theorem reconcile_annotates_store (E : Env) (req : ObjectKey) {σ : Cluster} (hσ : σ.Keyed) (hpods : σ.PodsKeyed)
    (fs : List Fault) {pod : Pod} (hpod : (serve (.getPod req) (σ, fs)).1 = .ok pod) (hd : isDesignatePod pod = true)
    (hlive : pod.deletionTimestamp = none) (hnew : pod.annotations.get predictableIPKey = "")
    (hphase : ¬(pod.phase = .succeeded ∨ pod.phase = .failed)) (hok : (Cluster.run (reconcile E req) σ fs).1 = .ok ()) :
    ∃ p podIndex parent, (σ.designates pod.ns).head? = some parent ∧
      (Cluster.run (reconcile E req) σ fs).2.pods req = some p ∧
      Pod.SameBut reconcileKeys pod p ∧ extractPodIndexFromName pod.name = .ok podIndex ∧
      readMultusNetworks (p.annotations.get networksKey) =
        some [{ name := parent.designateNetworkAttachment, interface := "designate"
                ips := [p.annotations.get predictableIPKey] }] ∧
      p.annotations.get ipsetNameKey = "designate-" ++ parent.designateNetworkAttachment ∧
      p.annotations.get podIndexKey = toString podIndex := by
  obtain ⟨podIndex, parent, -, -, a, multus, v, hparent, hidx, -, hm, h⟩ :=
    reconcile_ok_stored E req hσ hpods fs hpod hd hlive hnew hphase hok
  obtain ⟨h₁, h₂, h₃, h₄⟩ := annotations_lookup multus a (toString podIndex)
    ("designate-" ++ parent.designateNetworkAttachment)
  refine ⟨_, podIndex, parent, hparent, h,
    sameBut_mergedPod (fun k hk => lookup_annotations_of_not_mem _ _ _ _ hk) pod v, hidx, ?_⟩
  simp only [mergedPod, StrMap.get, mergeAnnotations_lookup, h₁, h₂, h₃, h₄, Option.or_some, Option.getD_some]
  exact ⟨readMultusNetworks_of_ok hm, trivial, trivial⟩

theorem reconcile_annotates_store_sample :
    bind9Cluster.Keyed ∧ bind9Cluster.PodsKeyed ∧
    (Cluster.serve (.getPod ⟨"openstack", "designate-backendbind9-0"⟩) (bind9Cluster, [])).1 =
      .ok { samplePod "designate-backendbind9-0" with resourceVersion := 1 } ∧
    isDesignatePod { samplePod "designate-backendbind9-0" with resourceVersion := 1 } = true ∧
    ({ samplePod "designate-backendbind9-0" with resourceVersion := 1 } : Pod).deletionTimestamp = none ∧
    ({ samplePod "designate-backendbind9-0" with resourceVersion := 1 } : Pod).annotations.get predictableIPKey = "" ∧
    ¬(({ samplePod "designate-backendbind9-0" with resourceVersion := 1 } : Pod).phase = .succeeded ∨
      ({ samplePod "designate-backendbind9-0" with resourceVersion := 1 } : Pod).phase = .failed) ∧
    (Cluster.run (reconcile sampleEnv ⟨"openstack", "designate-backendbind9-0"⟩) bind9Cluster []).1 = .ok () ∧
    ∃ p, (Cluster.run (reconcile sampleEnv ⟨"openstack", "designate-backendbind9-0"⟩) bind9Cluster []).2.pods
      ⟨"openstack", "designate-backendbind9-0"⟩ = some p := by
  obtain ⟨hσ, hp, hpod, hd, hnew, hphase, hok⟩ := bind9Cluster_annotatable
  obtain ⟨p, -, -, -, h, -⟩ := reconcile_annotates_store sampleEnv _ hσ hp [] hpod hd rfl hnew hphase hok
  exact ⟨hσ, hp, hpod, hd, rfl, hnew, hphase, hok, p, h⟩

/-- `Reconcile` of a stored live pod that has its predictable IP writes nothing, and succeeds whenever its read
does. -/
theorem reconcile_annotated_noop (E : Env) (req : ObjectKey) {σ : Cluster} {p : Pod} (hp : σ.pods req = some p)
    (hlive : p.deletionTimestamp = none) (hip : p.annotations.get predictableIPKey ≠ "") (fs : List Fault) :
    (Cluster.run (reconcile E req) σ fs).2 = σ ∧
      ∀ q, (serve (.getPod req) (σ, fs)).1 = .ok q → (Cluster.run (reconcile E req) σ fs).1 = .ok () := by
  have hans : σ.answer (.getPod req) = (.ok p, σ) := by simp only [Cluster.answer, hp]
  simp only [Cluster.run, reconcile, send_bind, runOn_call]
  rcases serve_cases (.getPod req) σ fs with h | ⟨e, h⟩ <;> rw [h] <;> dsimp only
  · simp only [hans, hlive, hip, Option.isSome_none, Bool.false_eq_true, ne_eq, not_false_eq_true, ↓reduceIte]
    exact ⟨by split_ifs <;> rfl, fun _ _ => by split_ifs <;> rfl⟩
  · exact ⟨by split <;> rfl, fun _ hq => by cases hq⟩

/-- **Reconciling an annotated pod again changes nothing.** On a store that keeps every object under its own key and
whose ipsets hold no empty address, once `Reconcile(req)` has annotated a live, unannotated, non-terminal managed pod,
a second `Reconcile(req)`, which the update's own watch event triggers, leaves the store as the first left it, with
any faults, and succeeds whenever its read succeeds: the controller does not loop on its own writes. -/
theorem reconcile_idempotent (E : Env) (req : ObjectKey) {σ : Cluster} (hσ : σ.Keyed) (hpods : σ.PodsKeyed)
    (hsets : ∀ network cm, σ.configMaps ⟨"openstack", "designate-" ++ network⟩ = some cm → "" ∉ cm.data.values)
    (fs : List Fault) {pod : Pod} (hpod : (serve (.getPod req) (σ, fs)).1 = .ok pod) (hd : isDesignatePod pod = true)
    (hlive : pod.deletionTimestamp = none) (hnew : pod.annotations.get predictableIPKey = "")
    (hphase : ¬(pod.phase = .succeeded ∨ pod.phase = .failed)) (hok : (Cluster.run (reconcile E req) σ fs).1 = .ok ())
    (fs' : List Fault) :
    (Cluster.run (reconcile E req) (Cluster.run (reconcile E req) σ fs).2 fs').2 =
        (Cluster.run (reconcile E req) σ fs).2 ∧
      ∀ q, (serve (.getPod req) ((Cluster.run (reconcile E req) σ fs).2, fs')).1 = .ok q →
        (Cluster.run (reconcile E req) (Cluster.run (reconcile E req) σ fs).2 fs').1 = .ok () := by
  obtain ⟨podIndex, parent, pfx, fs'', a, multus, v, -, -, ha, -, h⟩ :=
    reconcile_ok_stored E req hσ hpods fs hpod hd hlive hnew hphase hok
  have hne : a ≠ "" := allocateIP_ne_empty (hsets parent.designateNetworkAttachment) pfx podIndex fs'' ha
  obtain ⟨-, h₂, -, -⟩ := annotations_lookup multus a (toString podIndex)
    ("designate-" ++ parent.designateNetworkAttachment)
  refine reconcile_annotated_noop E req h hlive ?_ fs'
  simpa only [mergedPod, StrMap.get, mergeAnnotations_lookup, h₂, Option.or_some, Option.getD_some] using hne

theorem reconcile_idempotent_sample :
    bind9Cluster.Keyed ∧ bind9Cluster.PodsKeyed ∧
    (∀ network cm, bind9Cluster.configMaps ⟨"openstack", "designate-" ++ network⟩ = some cm → "" ∉ cm.data.values) ∧
    (Cluster.serve (.getPod ⟨"openstack", "designate-backendbind9-0"⟩) (bind9Cluster, [])).1 =
      .ok { samplePod "designate-backendbind9-0" with resourceVersion := 1 } ∧
    isDesignatePod { samplePod "designate-backendbind9-0" with resourceVersion := 1 } = true ∧
    ({ samplePod "designate-backendbind9-0" with resourceVersion := 1 } : Pod).deletionTimestamp = none ∧
    ({ samplePod "designate-backendbind9-0" with resourceVersion := 1 } : Pod).annotations.get predictableIPKey = "" ∧
    ¬(({ samplePod "designate-backendbind9-0" with resourceVersion := 1 } : Pod).phase = .succeeded ∨
      ({ samplePod "designate-backendbind9-0" with resourceVersion := 1 } : Pod).phase = .failed) ∧
    (Cluster.run (reconcile sampleEnv ⟨"openstack", "designate-backendbind9-0"⟩) bind9Cluster []).1 = .ok () ∧
    (Cluster.run (reconcile sampleEnv ⟨"openstack", "designate-backendbind9-0"⟩)
        (Cluster.run (reconcile sampleEnv ⟨"openstack", "designate-backendbind9-0"⟩) bind9Cluster []).2 []).2 =
      (Cluster.run (reconcile sampleEnv ⟨"openstack", "designate-backendbind9-0"⟩) bind9Cluster []).2 := by
  obtain ⟨hσ, hp, hpod, hd, hnew, hphase, hok⟩ := bind9Cluster_annotatable
  have hsets : ∀ network cm, bind9Cluster.configMaps ⟨"openstack", "designate-" ++ network⟩ = some cm →
      "" ∉ cm.data.values := fun _ _ h => by cases h
  exact ⟨hσ, hp, hsets, hpod, hd, rfl, hnew, hphase, hok,
    (reconcile_idempotent sampleEnv _ hσ hp hsets [] hpod hd rfl hnew hphase hok []).1⟩

/-- **What `Reconcile` can do to the ConfigMaps**: what one `AllocateIP` or one `ReleaseIP` on some set does, with
some of the faults, or nothing; its other requests read or write pods. -/
theorem reconcile_store (E : Env) (req : ObjectKey) (σ : Cluster) (fs : List Fault) :
    ∃ σ₁ : Cluster, (Cluster.run (reconcile E req) σ fs).2.configMaps = σ₁.configMaps ∧
      (σ₁ = σ ∨
        (∃ (m : IPSetManager) (pfx : Prefix) (i : Int) (fs' : List Fault),
          σ₁ = (Cluster.run (m.allocateIP E.pkg pfx i) σ fs').2) ∨
        ∃ (m : IPSetManager) (ip : String) (fs' : List Fault), σ₁ = (Cluster.run (m.releaseIP ip) σ fs').2) := by
  simp only [Cluster.run, reconcile, send_bind, runOn_call]
  rw [serve_getPod]
  generalize (serve (.getPod req) (σ, fs)).1 = r
  cases r with
  | error e => exact ⟨σ, by dsimp only; split <;> rfl, .inl rfl⟩
  | ok pod =>
    dsimp only
    split_ifs
    · exact ⟨σ, rfl, .inl rfl⟩
    · simp only [handlePodDeletion]
      split_ifs
      · simp only [runOn_bind, pure_eq, runOn_ret]
        exact ⟨_, rfl, .inr (.inr ⟨_, _, _, rfl⟩)⟩
      · exact ⟨σ, rfl, .inl rfl⟩
    · exact ⟨σ, rfl, .inl rfl⟩
    · exact ⟨σ, rfl, .inl rfl⟩
    · split
      · exact ⟨σ, rfl, .inl rfl⟩
      · simp only [runOn_bind, getParentDesignate_state]
        split
        · exact ⟨σ, rfl, .inl rfl⟩
        · split
          · exact ⟨σ, rfl, .inl rfl⟩
          · simp only [runOn_bind, createIPSetAnnotations_state]
            split
            · exact ⟨_, rfl, .inr (.inl ⟨_, _, _, _, rfl⟩)⟩
            · exact ⟨_, updateAttempts_configMaps _ _ _ _, .inr (.inl ⟨_, _, _, _, rfl⟩)⟩

/-- `Reconcile` of each event's pod in turn, each meeting its own faults: the store after the last. -/
def reconcileAll (E : Env) (σ : Cluster) (events : List (ObjectKey × List Fault)) : Cluster :=
  events.foldl (fun σ ev => (Cluster.run (reconcile E ev.1) σ ev.2).2) σ

theorem smallSet_reconcile {m : IPSetManager} {σ : Cluster} (h : SmallSet m σ) (E : Env) (req : ObjectKey)
    (fs : List Fault) : SmallSet m (Cluster.run (reconcile E req) σ fs).2 := by
  obtain ⟨σ₁, hc, rfl | ⟨m', pfx, i, fs', rfl⟩ | ⟨m', ip, fs', rfl⟩⟩ := reconcile_store E req σ fs
  · exact h.congr hc
  · exact (h.allocateIP m' pfx i fs').congr hc
  · exact (h.releaseIP m' ip fs').congr hc

theorem smallSet_reconcileAll {m : IPSetManager} (E : Env) :
    ∀ (events : List (ObjectKey × List Fault)) {σ : Cluster}, SmallSet m σ → SmallSet m (reconcileAll E σ events)
  | [], _, h => h
  | ev :: events, _, h => smallSet_reconcileAll E events (smallSet_reconcile h E ev.1 ev.2)

end Store

/-- **No ipset ever holds two entries.** From a store where an ipset holds at most one entry, after `Reconcile` of
any pods in turn, each meeting any faults, that ipset still holds at most one entry: a `Reconcile` changes the
ConfigMaps only through one `AllocateIP`, which writes a set's entries only when it creates the set, with one entry,
or through one `ReleaseIP`, which only deletes. -/
theorem reconcileAll_set_at_most_one (E : Env) (m : IPSetManager) {σ : Cluster} (hσ : σ.Keyed)
    (hsmall : ∀ d, σ.dataAt m.key = some d → d.entries.length ≤ 1) (events : List (ObjectKey × List Cluster.Fault))
    {d : StrMap} (hd : (reconcileAll E σ events).dataAt m.key = some d) : d.entries.length ≤ 1 :=
  (smallSet_reconcileAll E events ⟨hσ, hsmall⟩).2 d hd

theorem reconcileAll_set_at_most_one_sample :
    bind9Cluster.Keyed ∧ (∀ d, bind9Cluster.dataAt sampleSet.key = some d → d.entries.length ≤ 1) ∧
      (reconcileAll sampleEnv bind9Cluster
        [(⟨"openstack", "designate-backendbind9-0"⟩, []), (⟨"openstack", "designate-backendbind9-1"⟩, [])]).dataAt
        sampleSet.key = some ((∅ : StrMap).insert (podKey 0) "10.0.0.1") ∧
      ((∅ : StrMap).insert (podKey 0) "10.0.0.1").entries.length ≤ 1 :=
  have hσ : bind9Cluster.Keyed :=
    (Cluster.keyed_empty.writePod (samplePod "designate-backendbind9-0")).writePod
      (samplePod "designate-backendbind9-1")
  have hsmall : ∀ d, bind9Cluster.dataAt sampleSet.key = some d → d.entries.length ≤ 1 := fun _ h => nomatch h
  have hd : (reconcileAll sampleEnv bind9Cluster
      [(⟨"openstack", "designate-backendbind9-0"⟩, []), (⟨"openstack", "designate-backendbind9-1"⟩, [])]).dataAt
      sampleSet.key = some ((∅ : StrMap).insert (podKey 0) "10.0.0.1") := by
    decide
  ⟨hσ, hsmall, hd, reconcileAll_set_at_most_one sampleEnv sampleSet hσ hsmall _ hd⟩

end PredictableIP.Controllers
