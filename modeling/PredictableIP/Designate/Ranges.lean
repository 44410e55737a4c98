import PredictableIP.Designate.Funcs

/-!
# The walks over a predictable IP range

Fix a range whose `RangeStart` and `RangeEnd` are valid addresses of one family with `RangeStart ≤ RangeEnd`, and let
`d` be the number of `Next` steps between them (`stepsTo`).

* `GeneratePredictableIPMaps` writes `bind_address_i ↦ Next^i(RangeStart)` for `i < B = min(b, d)`, then
  `mdns_address_j ↦ Next^(B+j)(RangeStart)` for `j < min(m, d - B)`: one walk shared by the two loops, so every value
  is distinct and inside the range (`generatePredictableIPMaps_walk`). Each loop is `fillRange` (`fillRange_spec`).
* `GetPodPredictableIP` takes `i` steps and fails when one of them lands on `RangeEnd` (`stepWithin_eq_some`). On a
  range of at least one address it agrees with the maps: it succeeds exactly for `i < d`, with `Next^i(RangeStart)`,
  and gives every negative index `RangeStart` (`getPodPredictableIP_nonempty`). The starting address itself is never
  compared with `RangeEnd`, so on the empty range index `0` gets `RangeEnd` (`getPodPredictableIP_empty_range`).
-/

namespace PredictableIP.Designate

open Go Kube

/-! ## `fillRange` -/

/-- The entries `fillRange` writes from index `i` and step `j`, `c` of them, newest first. -/
def fillEntries (key : Nat → String) (s : Addr) (i j c : Nat) : List (Σ _ : String, String) :=
  ((List.range c).map fun t => ⟨key (i + t), (Addr.next^[j + t] s).string⟩).reverse

@[simp] theorem length_fillEntries (key : Nat → String) (s : Addr) (i j c : Nat) :
    (fillEntries key s i j c).length = c := by
  simp [fillEntries]

theorem fillEntries_succ (key : Nat → String) (s : Addr) (i j c : Nat) :
    fillEntries key s i j (c + 1) = fillEntries key s (i + 1) (j + 1) c ++ [⟨key i, (Addr.next^[j] s).string⟩] := by
  simp only [fillEntries, List.range_succ_eq_map, List.map_cons, List.map_map, List.reverse_cons, Nat.add_zero]
  congr 3
  funext t
  simp only [Function.comp, Nat.succ_eq_add_one, Nat.add_assoc, Nat.add_comm 1 t]

theorem mem_fillEntries {key : Nat → String} {s : Addr} {i j c : Nat} {k v : String} :
    (⟨k, v⟩ : Σ _ : String, String) ∈ fillEntries key s i j c ↔
      ∃ t < c, k = key (i + t) ∧ v = (Addr.next^[j + t] s).string := by
  simp only [fillEntries, List.mem_reverse, List.mem_map, List.mem_range]
  constructor
  · rintro ⟨t, ht, h⟩
    cases h
    exact ⟨t, ht, rfl, rfl⟩
  · rintro ⟨t, ht, rfl, rfl⟩
    exact ⟨t, ht, rfl⟩

theorem values_fillEntries (key : Nat → String) (s : Addr) (i j c : Nat) :
    (fillEntries key s i j c).map (·.2) = ((List.range c).map fun t => (Addr.next^[j + t] s).string).reverse := by
  simp [fillEntries, List.map_reverse]

section Fill

variable {s e : Addr} {d : Nat} (hd : s.stepsTo e = some d) {key : Nat → String} (hkey : Function.Injective key)
include hd hkey

/-- A loop from step `j` of the walk writes `min n (d - j)` fresh entries and stops that many steps further. -/
theorem fillRange_spec : ∀ (n i j : Nat) (m : StrMap), j ≤ d → (∀ t, key (i + t) ∉ m) →
    (fillRange e key n i (Addr.next^[j] s) m).1.entries = fillEntries key s i j (min n (d - j)) ++ m.entries ∧
      (fillRange e key n i (Addr.next^[j] s) m).2 = Addr.next^[j + min n (d - j)] s
  | 0, i, j, m, _, _ => by simp [fillRange, fillEntries]
  | n + 1, i, j, m, hj, hm => by
    rcases Nat.eq_or_lt_of_le hj with rfl | hj
    · simp [fillRange, Addr.iterate_stepsTo hd, fillEntries]
    · have hfresh : ∀ t, key (i + 1 + t) ∉ m.insert (key i) (Addr.next^[j] s).string := by
        intro t h
        rcases (AList.mem_insert _).mp h with h | h
        · exact absurd (hkey h) (by omega)
        · exact hm (t + 1) (by rwa [← Nat.add_assoc, Nat.add_right_comm])
      obtain ⟨h1, h2⟩ := fillRange_spec n (i + 1) (j + 1) _ (by omega) hfresh
      have hi : key i ∉ m := by simpa using hm 0
      have hc : min (n + 1) (d - j) = min n (d - (j + 1)) + 1 := by omega
      rw [Function.iterate_succ_apply'] at h1 h2
      simp only [fillRange, if_neg (Addr.iterate_ne_of_stepsTo hd hj), h1, h2, hc, fillEntries_succ,
        AList.insert_entries_of_neg hi, List.append_assoc, List.singleton_append]
      exact ⟨trivial, by congr 1; omega⟩

end Fill

/-! ## `GeneratePredictableIPMaps` -/

theorem bindKey_injective : Function.Injective fun i : Nat => "bind_address_" ++ toString i :=
  append_toString_injective _

theorem mdnsKey_injective : Function.Injective fun i : Nat => "mdns_address_" ++ toString i :=
  append_toString_injective _

/-- The two maps are the entries of one walk: the first `B` steps, then the next `M`. -/
theorem generatePredictableIPMaps_entries (p : NADIpam) (bindReplicas mdnsReplicas : Int) {d : Nat}
    (hd : p.rangeStart.stepsTo p.rangeEnd = some d) :
    (generatePredictableIPMaps p bindReplicas mdnsReplicas).1.entries =
        fillEntries (fun i => "bind_address_" ++ toString i) p.rangeStart 0 0 (min bindReplicas.toNat d) ∧
      (generatePredictableIPMaps p bindReplicas mdnsReplicas).2.entries =
        fillEntries (fun i => "mdns_address_" ++ toString i) p.rangeStart 0 (min bindReplicas.toNat d)
          (min mdnsReplicas.toNat (d - min bindReplicas.toNat d)) := by
  have none_mem : ∀ k : String, k ∉ (∅ : StrMap) := AList.not_mem_empty
  obtain ⟨b1, b2⟩ := fillRange_spec hd bindKey_injective bindReplicas.toNat 0 0 ∅ (Nat.zero_le _) (fun _ => none_mem _)
  have hB : min bindReplicas.toNat d ≤ d := Nat.min_le_right _ _
  obtain ⟨m1, -⟩ := fillRange_spec hd mdnsKey_injective mdnsReplicas.toNat 0 _ ∅ hB (fun _ => none_mem _)
  simp only [Function.iterate_zero_apply, Nat.sub_zero, Nat.zero_add, AList.empty_entries, List.append_nil] at b1 b2 m1
  simp only [generatePredictableIPMaps, b1, b2, m1, true_and]

/-- **`GeneratePredictableIPMaps`**: `B = min(max(b, 0), d)` bind addresses, then `min(max(m, 0), d - B)` mdns
addresses, all from one walk over the range, so all distinct and all in `[RangeStart, RangeEnd)`. -/
theorem generatePredictableIPMaps_walk (p : NADIpam) (bindReplicas mdnsReplicas : Int) {d : Nat}
    (hd : p.rangeStart.stepsTo p.rangeEnd = some d) :
    let maps := generatePredictableIPMaps p bindReplicas mdnsReplicas
    let B := min bindReplicas.toNat d
    let M := min mdnsReplicas.toNat (d - B)
    maps.1.entries.length = B ∧ maps.2.entries.length = M ∧
      (∀ k v, maps.1.lookup k = some v ↔
        ∃ i < B, k = "bind_address_" ++ toString i ∧ v = (Addr.next^[i] p.rangeStart).string) ∧
      (∀ k v, maps.2.lookup k = some v ↔
        ∃ j < M, k = "mdns_address_" ++ toString j ∧ v = (Addr.next^[B + j] p.rangeStart).string) ∧
      (maps.1.values ++ maps.2.values).Nodup ∧
      ∀ v ∈ maps.1.values ++ maps.2.values, ∃ k < d, v = (Addr.next^[k] p.rangeStart).string := by
  obtain ⟨hb, hm⟩ := generatePredictableIPMaps_entries p bindReplicas mdnsReplicas hd
  intro maps B M
  have hB : B ≤ d := Nat.min_le_right _ _
  have hBM : B + M ≤ d := by omega
  have hinj : ∀ {i j}, i ≤ d → j ≤ d → (Addr.next^[i] p.rangeStart).string = (Addr.next^[j] p.rangeStart).string →
      i = j := Addr.string_iterate_inj hd
  -- both maps' values together are the first `B + M` addresses of the walk, in another order
  have hvals : (maps.1.values ++ maps.2.values).Perm
      ((List.range (B + M)).map fun k => (Addr.next^[k] p.rangeStart).string) := by
    simp only [StrMap.values, maps, hb, hm, values_fillEntries, Nat.zero_add, List.range_add, List.map_append,
      List.map_map, Function.comp_def]
    exact (List.reverse_perm _).append (List.reverse_perm _)
  refine ⟨by simp only [maps, B, hb, length_fillEntries], by simp only [maps, B, M, hm, length_fillEntries],
    fun k v => ?_, fun k v => ?_, ?_, ?_⟩
  · rw [← Option.mem_def, AList.mem_lookup_iff, hb, mem_fillEntries]
    simp only [Nat.zero_add]
  · rw [← Option.mem_def, AList.mem_lookup_iff, hm, mem_fillEntries]
    simp only [Nat.zero_add]
  · refine hvals.nodup_iff.mpr (List.Nodup.map_on (fun x hx y hy h => hinj ?_ ?_ h) (List.nodup_range _))
    · exact (List.mem_range.mp hx).le.trans hBM
    · exact (List.mem_range.mp hy).le.trans hBM
  · intro v hv
    obtain ⟨k, hk, rfl⟩ := List.mem_map.mp (hvals.subset hv)
    exact ⟨k, (List.mem_range.mp hk).trans_le hBM, rfl⟩

/-- A range of four addresses, `10.0.0.1` up to `10.0.0.5`. -/
def sampleRange : NADIpam :=
  ⟨⟨.ip .v4 0x0A000000 (by decide), 24⟩, .ip .v4 0x0A000001 (by decide), .ip .v4 0x0A000005 (by decide)⟩

theorem generatePredictableIPMaps_walk_sample :
    sampleRange.rangeStart.stepsTo sampleRange.rangeEnd = some 4 ∧
      (generatePredictableIPMaps sampleRange 3 2).2.entries.length = 1 :=
  ⟨by decide, (generatePredictableIPMaps_walk sampleRange 3 2 (d := 4) (by decide)).2.1⟩

/-! ## `GetPodPredictableIP` -/

/-- `stepWithin` succeeds with the `n`-th address when none of the steps lands on `rangeEnd`. -/
theorem stepWithin_eq_some {e : Addr} : ∀ {n : Nat} {ip a : Addr},
    stepWithin e n ip = some a ↔ a = Addr.next^[n] ip ∧ ∀ k, 0 < k → k ≤ n → Addr.next^[k] ip ≠ e
  | 0, ip, a => ⟨fun h => ⟨(Option.some.inj h).symm, fun _ h1 h2 => absurd h2 (by omega)⟩,
      fun ⟨h, _⟩ => by rw [h]; rfl⟩
  | n + 1, ip, a => by
    rw [stepWithin]
    split
    · rename_i h
      exact ⟨fun h' => absurd h' (by simp), fun ⟨_, hk⟩ => absurd h (hk 1 Nat.one_pos (by omega))⟩
    · rename_i h
      rw [stepWithin_eq_some, Function.iterate_succ_apply]
      refine and_congr_right fun _ => ⟨fun hk k h0 hk' => ?_, fun hk k h0 hk' => ?_⟩
      · rcases k with _ | _ | k
        · omega
        · exact h
        · rw [Function.iterate_succ_apply]
          exact hk (k + 1) (by omega) (by omega)
      · have := hk (k + 1) (by omega) (by omega)
        rwa [Function.iterate_succ_apply] at this

/-- `CreatePredictableMultusAnnotation` walks as `GetPodPredictableIP` does. -/
theorem createPredictableMultusAnnotation_eq (networkName interfaceName : String) (podIndex : Int) (p : NADIpam) :
    createPredictableMultusAnnotation networkName interfaceName podIndex p =
      (getPodPredictableIP p podIndex).bind fun ip =>
        Designate.createMultusAnnotation [{ name := networkName, interface := interfaceName, ips := [ip] }] := by
  unfold createPredictableMultusAnnotation getPodPredictableIP
  split <;> rfl

/-- On a range of at least one address, `GetPodPredictableIP(p, i)` succeeds exactly for `i < d`, every negative
index included: its loop runs `max i 0` times, so a negative index gets `RangeStart`. The address it returns is the
one the bind map of `GeneratePredictableIPMaps(p, i+1, 0)` holds under `bind_address_i`, from index `0` on. -/
theorem getPodPredictableIP_nonempty (p : NADIpam) {d : Nat} (hd : p.rangeStart.stepsTo p.rangeEnd = some d)
    (hd0 : 0 < d) (i : Int) :
    getPodPredictableIP p i =
        (if i < d then .ok (Addr.next^[i.toNat] p.rangeStart).string else .error (errIndexExceedsRange i)) ∧
      (i < d → (generatePredictableIPMaps p (i.toNat + 1) 0).1.lookup ("bind_address_" ++ toString i.toNat) =
        some (Addr.next^[i.toNat] p.rangeStart).string) := by
  have hwalk (a : Addr) : stepWithin p.rangeEnd i.toNat p.rangeStart = some a ↔
      i.toNat < d ∧ a = Addr.next^[i.toNat] p.rangeStart := by
    rw [stepWithin_eq_some, and_comm]
    refine and_congr_left fun _ => ⟨fun h => ?_, fun h k h0 hk => Addr.iterate_ne_of_stepsTo hd (by omega)⟩
    by_contra hi
    exact h d hd0 (by omega) (Addr.iterate_stepsTo hd)
  refine ⟨?_, fun hi => ?_⟩
  · unfold getPodPredictableIP
    split
    next a ha =>
      obtain ⟨hi, rfl⟩ := (hwalk a).mp ha
      rw [if_pos (by omega)]
    next ha => rw [if_neg fun hi => by simp [ha] at hwalk; omega]
  · rw [← Option.mem_def, AList.mem_lookup_iff, (generatePredictableIPMaps_entries p (i.toNat + 1) 0 hd).1,
      mem_fillEntries]
    exact ⟨i.toNat, by omega, by rw [Nat.zero_add], by rw [Nat.zero_add]⟩

theorem getPodPredictableIP_nonempty_sample :
    sampleRange.rangeStart.stepsTo sampleRange.rangeEnd = some 4 ∧ 0 < 4 ∧
      getPodPredictableIP sampleRange (-1) = .ok sampleRange.rangeStart.string ∧
      getPodPredictableIP sampleRange 3 = .ok (Addr.next^[3] sampleRange.rangeStart).string := by
  have hd : sampleRange.rangeStart.stepsTo sampleRange.rangeEnd = some 4 := by decide
  refine ⟨hd, by decide, ?_, ?_⟩
  · rw [(getPodPredictableIP_nonempty sampleRange hd (by decide) (-1)).1, if_pos (by decide)]
    rfl
  · rw [(getPodPredictableIP_nonempty sampleRange hd (by decide) 3).1, if_pos (by decide)]
    rfl

/-- The empty range `10.0.0.1` up to `10.0.0.1`: `GetPodPredictableIP` gives index `0` the address `RangeEnd`, which
`GeneratePredictableIPMaps` does not write. -/
def emptyRange : NADIpam :=
  ⟨⟨.ip .v4 0x0A000000 (by decide), 24⟩, .ip .v4 0x0A000001 (by decide), .ip .v4 0x0A000001 (by decide)⟩

theorem getPodPredictableIP_empty_range :
    emptyRange.rangeStart.stepsTo emptyRange.rangeEnd = some 0 ∧
      getPodPredictableIP emptyRange 0 = .ok emptyRange.rangeEnd.string ∧
      (generatePredictableIPMaps emptyRange 1 0).1.lookup "bind_address_0" = none := by
  decide

end PredictableIP.Designate
