import PredictableIP.Go.Text

/-!
# The Kubernetes objects the controller reads and writes

`ConfigMap`, `Pod`, the `Designate` custom resource and the API errors, with only the fields the modelled code reads
or writes. A Go `map[string]string` is a `StrMap`, an association list with distinct keys; Go ranges over a map in an
unspecified order, which the model takes to be the order of the entries.

A merge patch (`client.MergeFrom`) changes on the stored object only the keys where the two versions it was computed
from differ; a patch computed from two equal versions changes nothing (`mergePatch_self`).
-/

namespace PredictableIP.Kube

/-- Results compare by their constructor and contents. -/
instance decEqExcept {ε α : Type} [DecidableEq ε] [DecidableEq α] : DecidableEq (Except ε α)
  | .ok a, .ok b => decidable_of_iff (a = b) ⟨congrArg _, fun h => by cases h; rfl⟩
  | .error a, .error b => decidable_of_iff (a = b) ⟨congrArg _, fun h => by cases h; rfl⟩
  | .ok _, .error _ => isFalse fun h => nomatch h
  | .error _, .ok _ => isFalse fun h => nomatch h

/-- A Go `map[string]string`. -/
abbrev StrMap := AList (fun _ : String => String)

/-- Maps compare by their entries; unlike `AList`'s own instance this one evaluates. -/
instance (priority := high) : DecidableEq StrMap :=
  fun a b => decidable_of_iff (a.entries = b.entries) AList.ext_iff.symm

namespace StrMap

/-- `m[k]`: the empty string for a missing key. -/
def get (m : StrMap) (k : String) : String := (m.lookup k).getD ""

/-- The values of the map, in its order. -/
def values (m : StrMap) : List String := m.entries.map (·.2)

/-- The map `cur` after the JSON merge patch from `before` to `after`: the keys `after` drops are deleted, the values
it adds or changes are set, every other key keeps its value in `cur`. -/
def mergePatch (before after cur : StrMap) : StrMap :=
  let removed := before.keys.filter (fun k => after.lookup k = none)
  let changed := after.entries.filter (fun e => before.lookup e.1 ≠ some e.2)
  changed.foldl (fun m e => m.insert e.1 e.2) (removed.foldl (fun m k => m.erase k) cur)

theorem mem_values {m : StrMap} {v : String} : v ∈ m.values ↔ ∃ k, m.lookup k = some v := by
  simp only [values, List.mem_map]
  constructor
  · rintro ⟨⟨k, v'⟩, hm, rfl⟩
    exact ⟨k, AList.mem_lookup_iff.mpr hm⟩
  · rintro ⟨k, hk⟩
    exact ⟨⟨k, v⟩, AList.mem_lookup_iff.mp hk, rfl⟩

/-- Erasing the key of the first entry holding `v` drops that occurrence of `v`, the first, from the values. -/
theorem values_erase_of_find? {m : StrMap} {v : String} {e : Σ _ : String, String}
    (h : m.entries.find? (·.2 = v) = some e) : values (m.erase e.1) = m.values.erase v := by
  obtain ⟨he, as, bs, hm, has⟩ := List.find?_eq_some.mp h
  have hnd := m.nodupKeys
  simp only [List.NodupKeys, List.keys, hm, List.map_append, List.map_cons] at hnd
  have hk : e.1 ∉ as.map Sigma.fst := fun hmem =>
    List.disjoint_of_nodup_append hnd hmem (List.mem_cons_self _ _)
  have hvs : v ∉ as.map (·.2) := by
    simp only [List.mem_map, not_exists, not_and]
    intro a ha hav
    simpa [hav] using has a ha
  show (m.entries.kerase e.1).map (·.2) = (m.entries.map (·.2)).erase v
  rw [hm, List.kerase_append_right hk, List.kerase_cons_eq rfl, List.map_append, List.map_append, List.map_cons,
    show e.2 = v by simpa using he, List.erase_append_right _ hvs, List.erase_cons_head]

/-- A patch between equal versions leaves the stored map alone. -/
theorem mergePatch_self (m cur : StrMap) : mergePatch m m cur = cur := by
  have hr : m.keys.filter (fun k => m.lookup k = none) = [] :=
    List.filter_eq_nil_iff.mpr fun k hk => by simpa [AList.lookup_eq_none, AList.mem_keys] using hk
  have hc : m.entries.filter (fun e => m.lookup e.1 ≠ some e.2) = [] :=
    List.filter_eq_nil_iff.mpr fun e he => by simpa using AList.mem_lookup_iff.mpr he
  simp only [mergePatch, hr, hc, List.foldl_nil]

end StrMap

/-- The namespace and name of an object (`client.ObjectKey`). -/
structure ObjectKey where
  ns : String
  name : String
  deriving DecidableEq, Repr

/-- A `corev1.ConfigMap`. A resource version of `0` is the unset one of a new object. -/
structure ConfigMap where
  name : String
  ns : String
  labels : StrMap
  data : StrMap
  resourceVersion : Nat
  deriving DecidableEq

def ConfigMap.key (cm : ConfigMap) : ObjectKey := ⟨cm.ns, cm.name⟩

/-- A `metav1.OwnerReference`. -/
structure OwnerReference where
  kind : String
  name : String
  deriving DecidableEq

/-- `corev1.PodPhase`. -/
inductive PodPhase
  | pending
  | running
  | succeeded
  | failed
  | unknown
  deriving DecidableEq, Repr

/-- A `corev1.Pod`: a deletion timestamp is the time of the deletion request. -/
structure Pod where
  name : String
  ns : String
  labels : StrMap
  annotations : StrMap
  ownerReferences : List OwnerReference
  deletionTimestamp : Option Nat
  phase : PodPhase
  resourceVersion : Nat
  deriving DecidableEq

def Pod.key (pod : Pod) : ObjectKey := ⟨pod.ns, pod.name⟩

/-- A `Designate` custom resource, with the one field of its spec the controller reads. -/
structure Designate where
  name : String
  ns : String
  designateNetworkAttachment : String
  deriving DecidableEq

/-- An API error: the reasons the code tells apart, and any other failure. -/
inductive StatusError
  | notFound
  | conflict
  | alreadyExists
  | other (message : String)
  deriving DecidableEq, Repr

/-- A Go `error` of the modelled code: an API error, a `strconv` error, a plain message (`errors.New`, `fmt.Errorf`
without `%w`), or a message wrapping an error (`fmt.Errorf("...: %w", err)`). -/
inductive Error
  | status (e : StatusError)
  | num (e : Go.NumError)
  | msg (text : String)
  | wrap (text : String) (e : Error)
  deriving DecidableEq, Repr

end PredictableIP.Kube
