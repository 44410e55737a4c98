import PredictableIP.Kube.Objects

/-!
# The API client and the API server

A program of the controller is a tree of requests to the API server (`Client`): each request waits for its reply, an
object or an API error. A program runs against a responder, a state machine that answers each request
(`Client.runOn`); the run records every exchange.

Two responders matter. An arbitrary one may answer anything, for statements over every sequence of store responses.
The API server over a store (`Cluster.serve`) answers from the store, unless the next entry of its fault list fails the
request: the store checks the resource version on update (`conflict`) and existence on create (`alreadyExists`), and
a merge patch carries no resource version.

Two programs may also run at once on the store (`Cluster.interleave`): a property of the store that every request
either program can send keeps (`Client.Issues`) holds after every interleaving (`interleave_invariant`).

`createOrPatch` is `controllerutil.CreateOrPatch`: it first reads the stored object into the object it is given, so
whatever the caller put there besides the key is replaced by the stored values before the mutate function runs, and
only what that function changes is patched (`createOrPatch_store`).
-/

namespace PredictableIP.Kube

/-- A request of `client.Client`, indexed by the object its reply carries. -/
inductive Request : Type → Type
  | getConfigMap (key : ObjectKey) : Request ConfigMap
  | createConfigMap (cm : ConfigMap) : Request Unit
  | updateConfigMap (cm : ConfigMap) : Request Unit
  | patchConfigMap (before after : ConfigMap) : Request Unit
  | getPod (key : ObjectKey) : Request Pod
  | updatePod (pod : Pod) : Request Unit
  | listDesignates (ns : String) : Request (List Designate)

/-- The pod a request sends to be updated. -/
def Request.updatedPod {β : Type} : Request β → Option Pod
  | .getConfigMap _ => none
  | .createConfigMap _ => none
  | .updateConfigMap _ => none
  | .patchConfigMap _ _ => none
  | .getPod _ => none
  | .updatePod pod => some pod
  | .listDesignates _ => none

/-- The pod a reply to a request returns, when the request reads a pod. -/
def Request.fetchedPod : {β : Type} → Request β → Except StatusError β → Option Pod
  | _, .getConfigMap _, _ => none
  | _, .createConfigMap _, _ => none
  | _, .updateConfigMap _, _ => none
  | _, .patchConfigMap _ _, _ => none
  | _, .getPod _, r => r.toOption
  | _, .updatePod _, _ => none
  | _, .listDesignates _, _ => none

/-- Whether a reply is about the object asked for: a pod read returns the pod under the key it asks; every other
reply is. -/
def Request.readsOwnKey : {β : Type} → Request β → Except StatusError β → Bool
  | _, .getPod key, .ok pod => pod.key == key
  | _, _, _ => true

/-- A program that talks to the API server. -/
inductive Client (α : Type) : Type 1
  | ret (a : α)
  | call {β : Type} (req : Request β) (k : Except StatusError β → Client α)

namespace Client

def bind {α γ : Type} : Client α → (α → Client γ) → Client γ
  | ret a, f => f a
  | call r k, f => call r fun x => (k x).bind f

instance : Monad Client where
  pure := ret
  bind := bind

/-- The result of a finished program. -/
def result? {α : Type} : Client α → Option α
  | ret a => some a
  | call _ _ => none

/-- Send one request and return its reply. -/
def send {β : Type} (r : Request β) : Client (Except StatusError β) := call r ret

/-- One request and its reply. -/
structure Exchange where
  {β : Type}
  req : Request β
  reply : Except StatusError β

/-- The pod an exchange sends to be updated. -/
def Exchange.updatedPod (x : Exchange) : Option Pod := x.req.updatedPod

/-- The pod a successful read returns. -/
def Exchange.fetchedPod (x : Exchange) : Option Pod := x.req.fetchedPod x.reply

/-- An update that succeeded. -/
def Exchange.updateSucceeded (x : Exchange) : Bool := x.req.updatedPod.isSome && x.reply.toBool

/-- A read that returned the pod asked for, or an exchange that reads no pod. -/
def Exchange.readsOwnKey (x : Exchange) : Bool := x.req.readsOwnKey x.reply

section Observe

variable (pod : Pod) (key : ObjectKey)

@[simp] theorem updatedPod_updatePod (r : Except StatusError Unit) :
    Exchange.updatedPod ⟨.updatePod pod, r⟩ = some pod := rfl

@[simp] theorem updatedPod_getPod (r : Except StatusError Pod) : Exchange.updatedPod ⟨.getPod key, r⟩ = none := rfl

@[simp] theorem fetchedPod_getPod (r : Except StatusError Pod) : Exchange.fetchedPod ⟨.getPod key, r⟩ = r.toOption :=
  rfl

@[simp] theorem updateSucceeded_updatePod (r : Except StatusError Unit) :
    Exchange.updateSucceeded ⟨.updatePod pod, r⟩ = r.toBool := rfl

@[simp] theorem updateSucceeded_getPod (r : Except StatusError Pod) :
    Exchange.updateSucceeded ⟨.getPod key, r⟩ = false := rfl

theorem updatedPod_of_updateSucceeded {x : Exchange} (h : x.updateSucceeded = true) : ∃ p, x.updatedPod = some p := by
  simp only [Exchange.updateSucceeded, Bool.and_eq_true, Option.isSome_iff_exists] at h
  exact h.1

end Observe

theorem key_of_readsOwnKey {key : ObjectKey} {pod : Pod} (h : Exchange.readsOwnKey ⟨.getPod key, .ok pod⟩ = true) :
    pod.key = key :=
  beq_iff_eq.mp h

/-- How a server in state `S` answers a request, and its next state. -/
abbrev Responder (S : Type) := ∀ {β : Type}, Request β → S → Except StatusError β × S

/-- Run a program against a responder: its result, the responder's last state, and the exchanges in order. -/
def runOn {α S : Type} (ans : Responder S) : Client α → S → α × S × List Exchange
  | ret a, s => (a, s, [])
  | call r k, s =>
    let x := ans r s
    let rest := (k x.1).runOn ans x.2
    (rest.1, rest.2.1, ⟨r, x.1⟩ :: rest.2.2)

section Run

variable {α β γ S : Type} (ans : Responder S)

@[simp] theorem pure_eq (a : α) : (Pure.pure a : Client α) = ret a := rfl

@[simp] theorem ret_bind (a : α) (f : α → Client γ) : (ret a >>= f) = f a := rfl

@[simp] theorem call_bind {β : Type} (r : Request β) (k : Except StatusError β → Client α) (f : α → Client γ) :
    (call r k >>= f) = call r fun x => k x >>= f := rfl

@[simp] theorem send_bind {β : Type} (r : Request β) (f : Except StatusError β → Client γ) :
    (send r >>= f) = call r f := rfl

@[simp] theorem runOn_ret (a : α) (s : S) : (ret a).runOn ans s = (a, s, []) := rfl

@[simp] theorem runOn_call {β : Type} (r : Request β) (k : Except StatusError β → Client α) (s : S) :
    (call r k).runOn ans s =
      let rest := (k (ans r s).1).runOn ans (ans r s).2
      (rest.1, rest.2.1, ⟨r, (ans r s).1⟩ :: rest.2.2) := rfl

theorem runOn_bind (c : Client α) (f : α → Client γ) (s : S) :
    (c >>= f).runOn ans s =
      let first := c.runOn ans s
      let rest := (f first.1).runOn ans first.2.1
      (rest.1, rest.2.1, first.2.2 ++ rest.2.2) := by
  induction c generalizing s with
  | ret a => rfl
  | call r k ih => simp only [call_bind, runOn_call, ih, List.cons_append]

@[simp] theorem bind_assoc (c : Client α) (f : α → Client β) (g : β → Client γ) :
    (c >>= f) >>= g = c >>= fun a => f a >>= g := by
  induction c with
  | ret a => rfl
  | call r k ih => simp only [call_bind, ih]

end Run

/-- Every request the program can send, whatever the replies, satisfies `P`. -/
inductive Issues (P : ∀ {β : Type}, Request β → Prop) {α : Type} : Client α → Prop
  | ret (a : α) : Issues P (ret a)
  | call {β : Type} (r : Request β) (k : Except StatusError β → Client α) :
      P r → (∀ x, Issues P (k x)) → Issues P (call r k)

theorem Issues.bind {P : ∀ {β : Type}, Request β → Prop} {α γ : Type} {c : Client α} {f : α → Client γ}
    (hc : c.Issues P) (hf : ∀ a, (f a).Issues P) : (c >>= f).Issues P := by
  induction hc with
  | ret a => exact hf a
  | call r k hr _ ih => exact .call r _ hr ih

end Client

/-! ## The API server -/

/-- The objects of the cluster, and the resource version the next write gets. -/
structure Cluster where
  configMaps : ObjectKey → Option ConfigMap
  pods : ObjectKey → Option Pod
  designates : String → List Designate
  revision : Nat

namespace Cluster

/-- The store with no objects. -/
def empty : Cluster := ⟨fun _ => none, fun _ => none, fun _ => [], 1⟩

/-- Store a ConfigMap under its key with the next resource version. -/
def writeConfigMap (σ : Cluster) (cm : ConfigMap) : Cluster :=
  { σ with
    configMaps := Function.update σ.configMaps cm.key (some { cm with resourceVersion := σ.revision })
    revision := σ.revision + 1 }

/-- Store a Pod under its key with the next resource version. -/
def writePod (σ : Cluster) (pod : Pod) : Cluster :=
  { σ with
    pods := Function.update σ.pods pod.key (some { pod with resourceVersion := σ.revision })
    revision := σ.revision + 1 }

/-- How the store answers a request. -/
def answer (σ : Cluster) : {β : Type} → Request β → Except StatusError β × Cluster
  | _, .getConfigMap key =>
    match σ.configMaps key with
    | some cm => (.ok cm, σ)
    | none => (.error .notFound, σ)
  | _, .createConfigMap cm =>
    match σ.configMaps cm.key with
    | some _ => (.error .alreadyExists, σ)
    | none => (.ok (), σ.writeConfigMap cm)
  | _, .updateConfigMap cm =>
    match σ.configMaps cm.key with
    | none => (.error .notFound, σ)
    | some cur =>
      if cur.resourceVersion = cm.resourceVersion then (.ok (), σ.writeConfigMap cm) else (.error .conflict, σ)
  | _, .patchConfigMap before after =>
    match σ.configMaps after.key with
    | none => (.error .notFound, σ)
    | some cur =>
      (.ok (), σ.writeConfigMap { cur with
        labels := StrMap.mergePatch before.labels after.labels cur.labels
        data := StrMap.mergePatch before.data after.data cur.data })
  | _, .getPod key =>
    match σ.pods key with
    | some pod => (.ok pod, σ)
    | none => (.error .notFound, σ)
  | _, .updatePod pod =>
    match σ.pods pod.key with
    | none => (.error .notFound, σ)
    | some cur => if cur.resourceVersion = pod.resourceVersion then (.ok (), σ.writePod pod) else (.error .conflict, σ)
  | _, .listDesignates ns => (.ok (σ.designates ns), σ)

/-- A fault: the request it meets fails with this error, and the store is left alone. -/
abbrev Fault := Option StatusError

/-- The API server over a store: the next entry of the fault list, when it is an error, fails the request; otherwise
the store answers it. -/
def serve : Client.Responder (Cluster × List Fault)
  | _, _, (σ, some e :: fs) => (.error e, σ, fs)
  | _, r, (σ, none :: fs) => ((σ.answer r).1, (σ.answer r).2, fs)
  | _, r, (σ, []) => ((σ.answer r).1, (σ.answer r).2, [])

/-- Run a program on the store with a fault list: its result and the store afterwards. -/
def run {α : Type} (c : Client α) (σ : Cluster) (fs : List Fault) : α × Cluster :=
  ((c.runOn serve (σ, fs)).1, (c.runOn serve (σ, fs)).2.1.1)

/-- Two programs running at once on the store: the schedule names the program whose request the store answers next
(`true` the first), and a turn of a finished program passes. The two programs left, and the store. -/
def interleave {α β : Type} : List Bool → Client α → Client β → Cluster → Client α × Client β × Cluster
  | [], c₁, c₂, σ => (c₁, c₂, σ)
  | true :: sched, .call r k, c₂, σ => interleave sched (k (σ.answer r).1) c₂ (σ.answer r).2
  | false :: sched, c₁, .call r k, σ => interleave sched c₁ (k (σ.answer r).1) (σ.answer r).2
  | _ :: sched, c₁, c₂, σ => interleave sched c₁ c₂ σ

@[simp] theorem serve_nil {β : Type} (r : Request β) (σ : Cluster) :
    serve r (σ, []) = ((σ.answer r).1, (σ.answer r).2, []) := rfl

@[simp] theorem serve_none {β : Type} (r : Request β) (σ : Cluster) (fs : List Fault) :
    serve r (σ, none :: fs) = ((σ.answer r).1, (σ.answer r).2, fs) := rfl

@[simp] theorem serve_some {β : Type} (r : Request β) (σ : Cluster) (e : StatusError) (fs : List Fault) :
    serve r (σ, some e :: fs) = (.error e, σ, fs) := rfl

/-! ### What one request can do to the store -/

/-- Every ConfigMap is stored under its own key. -/
def Keyed (σ : Cluster) : Prop := ∀ k cm, σ.configMaps k = some cm → cm.key = k

/-- Every pod is stored under its own key. -/
def PodsKeyed (σ : Cluster) : Prop := ∀ k pod, σ.pods k = some pod → pod.key = k

/-- The data of the ConfigMap under a key. -/
def dataAt (σ : Cluster) (k : ObjectKey) : Option StrMap := (σ.configMaps k).map ConfigMap.data

section Answer

variable {σ : Cluster} {β : Type}

theorem keyed_empty : empty.Keyed := fun _ _ h => nomatch h

theorem Keyed.writeConfigMap (h : σ.Keyed) (cm : ConfigMap) : (σ.writeConfigMap cm).Keyed := by
  intro k c hc
  simp only [Cluster.writeConfigMap, Function.update_apply] at hc
  split at hc
  · cases hc; subst k; rfl
  · exact h k c hc

theorem Keyed.writePod (h : σ.Keyed) (pod : Pod) : (σ.writePod pod).Keyed := h

theorem Keyed.answer (h : σ.Keyed) (r : Request β) : (σ.answer r).2.Keyed := by
  cases r <;> simp only [answer] <;> repeat' split
  all_goals first | exact h | exact h.writeConfigMap _

theorem podsKeyed_empty : empty.PodsKeyed := fun _ _ h => nomatch h

theorem PodsKeyed.writePod (h : σ.PodsKeyed) (pod : Pod) : (σ.writePod pod).PodsKeyed := by
  intro k p hp
  simp only [Cluster.writePod, Function.update_apply] at hp
  split at hp
  · cases hp; subst k; rfl
  · exact h k p hp

theorem PodsKeyed.answer (h : σ.PodsKeyed) (r : Request β) : (σ.answer r).2.PodsKeyed := by
  cases r <;> simp only [answer] <;> repeat' split
  all_goals first | exact h | exact h.writePod _

theorem PodsKeyed.congr {σ' : Cluster} (h : σ.PodsKeyed) (hp : σ'.pods = σ.pods) : σ'.PodsKeyed := by
  intro k p hk
  rw [hp] at hk
  exact h k p hk

theorem writeConfigMap_configMaps_of_ne {cm : ConfigMap} {k : ObjectKey} (hk : k ≠ cm.key) :
    (σ.writeConfigMap cm).configMaps k = σ.configMaps k := Function.update_noteq hk _ _

theorem writePod_pods_of_ne {pod : Pod} {k : ObjectKey} (hk : k ≠ pod.key) : (σ.writePod pod).pods k = σ.pods k :=
  Function.update_noteq hk _ _

/-- A patch writes no pod, and no ConfigMap but the one under its key. -/
theorem answer_patch_frame (hσ : σ.Keyed) (before after : ConfigMap) :
    (σ.answer (.patchConfigMap before after)).2.pods = σ.pods ∧
      ∀ k, k ≠ after.key → (σ.answer (.patchConfigMap before after)).2.configMaps k = σ.configMaps k := by
  simp only [answer]
  split
  · exact ⟨rfl, fun _ _ => rfl⟩
  · rename_i cur hcur
    exact ⟨rfl, fun k hk => writeConfigMap_configMaps_of_ne ((hσ _ _ hcur).symm ▸ hk)⟩

/-- An update of a pod writes no pod but the one under its key. -/
theorem answer_updatePod_pods_of_ne (pod : Pod) {k : ObjectKey} (hk : k ≠ pod.key) :
    (σ.answer (.updatePod pod)).2.pods k = σ.pods k := by
  simp only [answer]
  split
  · rfl
  · split
    · exact writePod_pods_of_ne hk
    · rfl

@[simp] theorem dataAt_writeConfigMap (cm : ConfigMap) (k : ObjectKey) :
    (σ.writeConfigMap cm).dataAt k = if k = cm.key then some cm.data else σ.dataAt k := by
  simp only [dataAt, Cluster.writeConfigMap, Function.update_apply]
  split <;> rfl

theorem dataAt_writeConfigMap_self {cm : ConfigMap} {k : ObjectKey} (h : cm.key = k) :
    (σ.writeConfigMap cm).dataAt k = some cm.data := by
  rw [dataAt_writeConfigMap, if_pos h.symm]

/-- Each request is answered by the store, or fails by a fault and leaves the store alone. -/
theorem serve_cases (r : Request β) (σ : Cluster) (fs : List Fault) :
    serve r (σ, fs) = ((σ.answer r).1, (σ.answer r).2, fs.tail) ∨ ∃ e, serve r (σ, fs) = (.error e, σ, fs.tail) := by
  match fs with
  | [] => exact .inl rfl
  | none :: _ => exact .inl rfl
  | some e :: _ => exact .inr ⟨e, rfl⟩

@[simp] theorem answer_getConfigMap_snd (k : ObjectKey) : (σ.answer (.getConfigMap k)).2 = σ := by
  simp only [answer]; split <;> rfl

@[simp] theorem answer_getPod_snd (k : ObjectKey) : (σ.answer (.getPod k)).2 = σ := by
  simp only [answer]; split <;> rfl

theorem answer_updatePod_configMaps (pod : Pod) : (σ.answer (.updatePod pod)).2.configMaps = σ.configMaps := by
  simp only [answer]
  split
  · rfl
  · split <;> rfl

/-- A request the store answers without writing a ConfigMap writes none, however it is served. -/
theorem serve_configMaps {r : Request β} (hr : (σ.answer r).2.configMaps = σ.configMaps) (fs : List Fault) :
    (serve r (σ, fs)).2.1.configMaps = σ.configMaps := by
  rcases serve_cases r σ fs with h | ⟨e, h⟩ <;> rw [h]
  exact hr

/-- A read leaves the store alone, whatever it returns. -/
theorem serve_getConfigMap (k : ObjectKey) (fs : List Fault) :
    serve (.getConfigMap k) (σ, fs) = ((serve (.getConfigMap k) (σ, fs)).1, σ, fs.tail) := by
  rcases serve_cases (.getConfigMap k) σ fs with h | ⟨e, h⟩ <;> rw [h]
  simp

theorem serve_getPod (k : ObjectKey) (fs : List Fault) :
    serve (.getPod k) (σ, fs) = ((serve (.getPod k) (σ, fs)).1, σ, fs.tail) := by
  rcases serve_cases (.getPod k) σ fs with h | ⟨e, h⟩ <;> rw [h]
  simp

/-- A read returns what is stored: a fault is an error. -/
theorem serve_getConfigMap_ok {k : ObjectKey} {fs : List Fault} {cm : ConfigMap}
    (h : (serve (.getConfigMap k) (σ, fs)).1 = .ok cm) : σ.configMaps k = some cm := by
  rcases serve_cases (.getConfigMap k) σ fs with h' | ⟨e, h'⟩ <;> rw [h'] at h
  · simp only [answer] at h
    split at h
    · cases h; assumption
    · cases h
  · cases h

theorem PodsKeyed.serve (h : σ.PodsKeyed) (r : Request β) (fs : List Fault) : (serve r (σ, fs)).2.1.PodsKeyed := by
  rcases serve_cases r σ fs with h' | ⟨e, h'⟩ <;> rw [h']
  · exact h.answer r
  · exact h

theorem serve_getPod_ok {k : ObjectKey} {fs : List Fault} {pod : Pod} (h : (serve (.getPod k) (σ, fs)).1 = .ok pod) :
    σ.pods k = some pod := by
  rcases serve_cases (.getPod k) σ fs with h' | ⟨e, h'⟩ <;> rw [h'] at h
  · simp only [answer] at h
    split at h
    · cases h; assumption
    · cases h
  · cases h

/-- A create stores its object only when nothing is stored under its key. -/
theorem answer_createConfigMap_snd (cm : ConfigMap) :
    (σ.answer (.createConfigMap cm)).2 = σ ∨
      σ.configMaps cm.key = none ∧ (σ.answer (.createConfigMap cm)).2 = σ.writeConfigMap cm := by
  simp only [answer]
  split
  · exact .inl rfl
  · exact .inr ⟨‹_›, rfl⟩

theorem answer_getConfigMap_of_eq {k : ObjectKey} {cm : ConfigMap} (h : σ.configMaps k = some cm) :
    σ.answer (.getConfigMap k) = (.ok cm, σ) := by
  simp only [answer, h]

/-- An update of the version stored succeeds. -/
theorem answer_updateConfigMap_of_eq {cm cur : ConfigMap} (h : σ.configMaps cm.key = some cur)
    (hv : cur.resourceVersion = cm.resourceVersion) :
    σ.answer (.updateConfigMap cm) = (.ok (), σ.writeConfigMap cm) := by
  simp only [answer, h, hv, if_true]

/-- A merge patch between two versions with the same data leaves every data alone. -/
theorem dataAt_answer_patch (hσ : σ.Keyed) {before after : ConfigMap} (hd : after.data = before.data)
    (k : ObjectKey) : (σ.answer (.patchConfigMap before after)).2.dataAt k = σ.dataAt k := by
  simp only [answer]
  split
  · rfl
  · rename_i cur hcur
    have hkey : cur.key = after.key := hσ _ _ hcur
    rw [dataAt_writeConfigMap, hd, StrMap.mergePatch_self]
    split
    · rename_i hk
      have hk' : σ.configMaps k = some cur := by
        rw [hk]
        change σ.configMaps cur.key = some cur
        rw [hkey, hcur]
      simp only [dataAt, hk', Option.map_some']
    · rfl

end Answer

/-- **An invariant of two programs at once.** When every request either program can send keeps `Inv`, every
interleaving of the two keeps it. -/
theorem interleave_invariant {Inv : Cluster → Prop} {P : ∀ {β : Type}, Request β → Prop}
    (hstep : ∀ {β : Type} (r : Request β) (σ : Cluster), P r → Inv σ → Inv (σ.answer r).2) {α β : Type} :
    ∀ (sched : List Bool) {c₁ : Client α} {c₂ : Client β} {σ : Cluster}, c₁.Issues P → c₂.Issues P → Inv σ →
      Inv (interleave sched c₁ c₂ σ).2.2
  | [], _, _, _, _, _, h => h
  | true :: sched, _, _, σ, .call r _ hr hk, h₂, h => interleave_invariant hstep sched (hk _) h₂ (hstep r σ hr h)
  | true :: sched, _, _, _, .ret a, h₂, h => interleave_invariant hstep sched (.ret a) h₂ h
  | false :: sched, _, _, σ, h₁, .call r _ hr hk, h => interleave_invariant hstep sched h₁ (hk _) (hstep r σ hr h)
  | false :: sched, _, _, _, h₁, .ret a, h => interleave_invariant hstep sched h₁ (.ret a) h

end Cluster

/-! ## `controllerutil.CreateOrPatch` -/

/-- `controllerutil.OperationResult`. -/
inductive OperationResult
  | none
  | created
  | updated
  deriving DecidableEq, Repr

open Client in
/-- `controllerutil.CreateOrPatch(ctx, c, obj, f)` for a ConfigMap, with the mutate function `f` as a function of the
object. The stored object is read into `obj`: when there is none, `f obj` is created; otherwise `f` runs on the stored
object and the difference is patched, if there is one. -/
def createOrPatch (obj : ConfigMap) (f : ConfigMap → ConfigMap) : Client (Except StatusError OperationResult) := do
  match ← send (.getConfigMap obj.key) with
  | .error e =>
    if e = .notFound then
      match ← send (.createConfigMap (f obj)) with
      | .error e => return .error e
      | .ok () => return .ok .created
    else return .error e
  | .ok found =>
    if f found = found then return .ok .none
    else
      match ← send (.patchConfigMap found (f found)) with
      | .error e => return .error e
      | .ok () => return .ok .updated

open Client in
/-- The requests `createOrPatch` can send: a read of the object's key, the create of the mutated object, and a patch
of a stored object by its mutation. -/
theorem createOrPatch_issues {P : ∀ {β : Type}, Request β → Prop} {obj : ConfigMap} {f : ConfigMap → ConfigMap}
    (hget : P (.getConfigMap obj.key)) (hcreate : P (.createConfigMap (f obj)))
    (hpatch : ∀ found, P (.patchConfigMap found (f found))) : (createOrPatch obj f).Issues P := by
  simp only [createOrPatch, Client.bind_assoc, send_bind, pure_eq, ret_bind, call_bind]
  refine .call _ _ hget fun r => ?_
  rcases r with e | found
  · dsimp only
    split
    · exact .call _ _ hcreate fun r => by rcases r with _ | _ <;> exact .ret _
    · exact .ret _
  · dsimp only
    split
    · exact .ret _
    · exact .call _ _ (hpatch found) fun r => by rcases r with _ | _ <;> exact .ret _

open Client Cluster in
/-- What `createOrPatch` can do to the store: nothing, the create of the mutated object, or the patch of the stored
object by its mutation. -/
theorem createOrPatch_store (obj : ConfigMap) (f : ConfigMap → ConfigMap) (σ : Cluster) (fs : List Fault) :
    ((createOrPatch obj f).runOn serve (σ, fs)).2.1.1 = σ ∨
      ((createOrPatch obj f).runOn serve (σ, fs)).2.1.1 = (σ.answer (.createConfigMap (f obj))).2 ∨
      ∃ found, σ.configMaps obj.key = some found ∧
        ((createOrPatch obj f).runOn serve (σ, fs)).2.1.1 = (σ.answer (.patchConfigMap found (f found))).2 := by
  simp only [createOrPatch, bind_assoc, send_bind, pure_eq, ret_bind, call_bind, runOn_call]
  rw [serve_getConfigMap]
  generalize hr : (serve (.getConfigMap obj.key) (σ, fs)).1 = r
  cases r with
  | error e =>
    dsimp only
    split
    · simp only [runOn_call]
      rcases serve_cases (.createConfigMap (f obj)) σ fs.tail with h | ⟨e', h⟩ <;> rw [h]
      · exact .inr (.inl (by split <;> rfl))
      · exact .inl (by split <;> rfl)
    · exact .inl rfl
  | ok found =>
    dsimp only
    split
    · exact .inl rfl
    · simp only [runOn_call]
      rcases serve_cases (.patchConfigMap found (f found)) σ fs.tail with h | ⟨e', h⟩ <;> rw [h]
      · exact .inr (.inr ⟨found, serve_getConfigMap_ok hr, by split <;> rfl⟩)
      · exact .inl (by split <;> rfl)

end PredictableIP.Kube
