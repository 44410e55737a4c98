import PredictableIP.Go.Text

/-!
# `net/netip` addresses

A `netip.Addr` is modelled by its family and its number; the zone of an IPv6 address is left out (network
attachment ranges carry none). `Addr.next` is `Addr.Next`, `Addr.string` is `Addr.String`.

* Walks: from a valid `s` to `e` of the same family with `s ≤ e`, `stepsTo s e = some d` gives the number of `Next`
  steps; the walk meets `e` first at step `d` (`iterate_stepsTo`, `iterate_ne_of_stepsTo`) and its addresses before
  that are valid and pairwise distinct (`iterate_injOn_stepsTo`).
* Text: distinct valid addresses print distinct texts (`string_inj`). IPv4 prints its four bytes in decimal, as Go's
  `string4` does; IPv6 is printed with its eight 16-bit words in hexadecimal, without the `::` compression of Go's
  `string6`: the model only uses that printing is injective, which holds for both forms.
-/

namespace PredictableIP.Go

/-! ## Joining groups -/

/-- Split at the first separator: `x` occurs in neither left part. -/
theorem append_cons_inj {x : Char} :
    ∀ {a a' r r' : List Char}, x ∉ a → x ∉ a' → a ++ x :: r = a' ++ x :: r' → a = a' ∧ r = r'
  | [], [], _, _, _, _, h => ⟨rfl, by simpa using h⟩
  | [], y :: a', _, _, _, h', h => by
    simp only [List.nil_append, List.cons_append, List.cons.injEq] at h
    exact absurd (h.1 ▸ List.mem_cons_self y a') h'
  | y :: a, [], _, _, h, _, h' => by
    simp only [List.nil_append, List.cons_append, List.cons.injEq] at h'
    exact absurd (h'.1 ▸ List.mem_cons_self y a) h
  | y :: a, z :: a', _, _, h, h', he => by
    simp only [List.cons_append, List.cons.injEq] at he
    obtain ⟨rfl, rfl⟩ := append_cons_inj (List.not_mem_of_not_mem_cons h) (List.not_mem_of_not_mem_cons h') he.2
    exact ⟨by rw [he.1], rfl⟩

/-- Groups printed by `digits` and joined by `sep`, as Go's `string4` writes the bytes of an address. -/
def joinGroups (sep : Char) (digits : Nat → List Char) : List Nat → List Char
  | [] => []
  | [g] => digits g
  | g :: gs => digits g ++ sep :: joinGroups sep digits gs

section Join

variable {sep c : Char} {digits : Nat → List Char}

theorem mem_joinGroups : ∀ {l : List Nat}, c ∈ joinGroups sep digits l → c = sep ∨ ∃ g ∈ l, c ∈ digits g
  | [], h => by simp [joinGroups] at h
  | [g], h => .inr ⟨g, List.mem_singleton_self g, h⟩
  | g :: g' :: gs, h => by
    simp only [joinGroups, List.mem_append, List.mem_cons] at h
    rcases h with h | h | h
    · exact .inr ⟨g, List.mem_cons_self _ _, h⟩
    · exact .inl h
    · rcases mem_joinGroups h with h | ⟨k, hk, hc⟩
      · exact .inl h
      · exact .inr ⟨k, List.mem_cons_of_mem _ hk, hc⟩

theorem sep_mem_joinGroups {g g' : Nat} {gs : List Nat} : sep ∈ joinGroups sep digits (g :: g' :: gs) := by
  simp [joinGroups]

theorem joinGroups_injective (hsep : ∀ g, sep ∉ digits g) (hd : Function.Injective digits) :
    ∀ {l l' : List Nat}, l.length = l'.length → joinGroups sep digits l = joinGroups sep digits l' → l = l'
  | [], [], _, _ => rfl
  | [g], [g'], _, h => by rw [hd h]
  | g :: g₁ :: gs, g' :: g₁' :: gs', hl, h => by
    simp only [joinGroups] at h
    obtain ⟨h₁, h₂⟩ := append_cons_inj (hsep g) (hsep g') h
    rw [hd h₁, joinGroups_injective hsep hd (by simpa using hl) h₂]
  | [], _ :: _, hl, _ | _ :: _, [], hl, _ | [_], _ :: _ :: _, hl, _ | _ :: _ :: _, [_], hl, _ => by
    simp at hl

end Join

/-! ## Families -/

/-- The address families of `netip.Addr`. -/
inductive Family
  | v4
  | v6
  deriving DecidableEq, Repr

namespace Family

def bitLen : Family → Nat
  | v4 => 32
  | v6 => 128

/-- The number of groups of the text form. -/
def groups : Family → Nat
  | v4 => 4
  | v6 => 8

/-- The bits of one group. -/
def groupBits : Family → Nat
  | v4 => 8
  | v6 => 16

/-- The base a group is printed in. -/
def base : Family → Nat
  | v4 => 10
  | v6 => 16

/-- The separator of the groups. -/
def sep : Family → Char
  | v4 => '.'
  | v6 => ':'

theorem bitLen_eq (f : Family) : f.bitLen = f.groupBits * f.groups := by cases f <;> rfl

theorem one_lt_base (f : Family) : 1 < f.base ∧ f.base ≤ 16 := by cases f <;> decide

end Family

/-- The `k` groups of `w` bits of `n`, most significant first. -/
def groupsOf (w : Nat) : Nat → Nat → List Nat
  | 0, _ => []
  | k + 1, n => groupsOf w k (n / 2 ^ w) ++ [n % 2 ^ w]

/-- The number whose `w`-bit groups are `l`. -/
def ofGroups (w : Nat) (l : List Nat) : Nat := l.foldl (fun acc g => acc * 2 ^ w + g) 0

theorem length_groupsOf (w : Nat) : ∀ k n, (groupsOf w k n).length = k
  | 0, _ => rfl
  | k + 1, n => by simp [groupsOf, length_groupsOf w k]

theorem ofGroups_groupsOf (w : Nat) : ∀ k n, ofGroups w (groupsOf w k n) = n % 2 ^ (w * k)
  | 0, n => by simp [groupsOf, ofGroups, Nat.mod_one]
  | k + 1, n => by
    have ih := ofGroups_groupsOf w k (n / 2 ^ w)
    simp only [ofGroups, groupsOf, List.foldl_append, List.foldl_cons, List.foldl_nil] at ih ⊢
    rw [ih, Nat.mul_succ, Nat.pow_add, Nat.mul_comm (2 ^ (w * k)), Nat.mod_mul, Nat.add_comm, Nat.mul_comm]

/-! ## Addresses -/

/-- A `netip.Addr` without zone. An address of the zero zone is invalid; `Addr{}` is `invalid 0`, and `Next` walks
the invalid ones through their 128-bit number as Go does. A valid address is a number below `2 ^ bitLen`. -/
inductive Addr
  | invalid (n : Nat) (h : n < 2 ^ 128)
  | ip (fam : Family) (n : Nat) (h : n < 2 ^ fam.bitLen)
  deriving DecidableEq

namespace Addr

/-- `Addr{}`. -/
def zero : Addr := invalid 0 (by decide)

/-- `Addr.IsValid`. -/
def isValid : Addr → Bool
  | invalid _ _ => false
  | ip _ _ _ => true

/-- `Addr.Next`: the successor in the family, and `Addr{}` past the family's last address. -/
def next : Addr → Addr
  | invalid n _ => if h : n + 1 < 2 ^ 128 then invalid (n + 1) h else zero
  | ip f n _ => if h : n + 1 < 2 ^ f.bitLen then ip f (n + 1) h else zero

/-- The characters of `Addr.String`. -/
def text : Addr → List Char
  | invalid _ _ => "invalid IP".toList
  | ip f n _ => joinGroups f.sep (Nat.toDigits f.base) (groupsOf f.groupBits f.groups n)

/-- `Addr.String`. -/
def string (a : Addr) : String := ⟨a.text⟩

/-- How many addresses of the family are left from `a` on: `0` for an invalid address. -/
def room : Addr → Nat
  | invalid _ _ => 0
  | ip f n _ => 2 ^ f.bitLen - n

theorem iterate_next_ip {f : Family} {n : Nat} {h : n < 2 ^ f.bitLen} :
    ∀ k (hk : n + k < 2 ^ f.bitLen), next^[k] (ip f n h) = ip f (n + k) hk
  | 0, _ => rfl
  | k + 1, hk => by
    rw [Function.iterate_succ_apply', iterate_next_ip k (by omega), next, dif_pos (by omega)]
    rfl

/-! ## Walks -/

/-- The number of `Next` steps from `s` to `e`, when both are valid addresses of one family and `s ≤ e`. -/
def stepsTo : Addr → Addr → Option Nat
  | ip f a _, ip g b _ => if f = g ∧ a ≤ b then some (b - a) else none
  | _, _ => none

theorem stepsTo_eq_some {s e : Addr} {d : Nat} (h : stepsTo s e = some d) :
    ∃ f a b, ∃ (ha : a < 2 ^ f.bitLen) (hb : b < 2 ^ f.bitLen), s = ip f a ha ∧ e = ip f b hb ∧ a ≤ b ∧ d = b - a := by
  match s, e, h with
  | ip f a ha, ip g b hb, h =>
    simp only [stepsTo] at h
    split at h
    · rename_i hfg
      obtain ⟨rfl, hab⟩ := hfg
      exact ⟨f, a, b, ha, hb, rfl, rfl, hab, (Option.some.inj h).symm⟩
    · cases h

section Walk

variable {s e : Addr} {d : Nat} (hd : stepsTo s e = some d)
include hd

/-- Before step `d` and at it, the walk is `s` plus the step count. -/
theorem iterate_of_stepsTo {k : Nat} (hk : k ≤ d) :
    ∃ f a, ∃ (h : a + k < 2 ^ f.bitLen), s = ip f a (by omega) ∧ next^[k] s = ip f (a + k) h := by
  obtain ⟨f, a, b, ha, hb, rfl, rfl, hab, rfl⟩ := stepsTo_eq_some hd
  exact ⟨f, a, by omega, rfl, iterate_next_ip k _⟩

theorem iterate_stepsTo : next^[d] s = e := by
  obtain ⟨f, a, b, ha, hb, rfl, rfl, hab, rfl⟩ := stepsTo_eq_some hd
  rw [iterate_next_ip _ (by omega)]
  congr 1
  omega

theorem iterate_ne_of_stepsTo {k : Nat} (hk : k < d) : next^[k] s ≠ e := by
  obtain ⟨f, a, b, ha, hb, rfl, rfl, hab, rfl⟩ := stepsTo_eq_some hd
  rw [iterate_next_ip _ (by omega)]
  intro h
  cases h
  omega

theorem iterate_isValid_of_stepsTo {k : Nat} (hk : k ≤ d) : (next^[k] s).isValid := by
  obtain ⟨f, a, h, -, he⟩ := iterate_of_stepsTo hd hk
  rw [he]
  rfl

theorem iterate_injOn_stepsTo {i j : Nat} (hi : i ≤ d) (hj : j ≤ d) (h : next^[i] s = next^[j] s) : i = j := by
  obtain ⟨f, a, hi', hs, he⟩ := iterate_of_stepsTo hd hi
  obtain ⟨f', a', hj', hs', he'⟩ := iterate_of_stepsTo hd hj
  rw [he, he'] at h
  rw [hs] at hs'
  cases hs'
  have := (ip.inj h).2
  omega

end Walk

/-! ## Text -/

theorem sep_not_mem_digits (f : Family) (g : Nat) :
    f.sep ∉ Nat.toDigits f.base g ∧ ' ' ∉ Nat.toDigits f.base g := by
  obtain ⟨-, h4, h6, hsp⟩ := sep_not_mem_toDigits f.one_lt_base.1 f.one_lt_base.2 g
  cases f
  exacts [⟨h4, hsp⟩, ⟨h6, hsp⟩]

theorem space_not_mem_text {f : Family} {n : Nat} {h : n < 2 ^ f.bitLen} : ' ' ∉ (ip f n h).text := fun hm => by
  rcases mem_joinGroups hm with hc | ⟨g, -, hg⟩
  · cases f <;> simp [Family.sep] at hc
  · exact (sep_not_mem_digits f g).2 hg

theorem space_mem_text_invalid {n : Nat} {h : n < 2 ^ 128} : ' ' ∈ (invalid n h).text := by
  show ' ' ∈ "invalid IP".toList
  decide

theorem sep_mem_text {f : Family} {n : Nat} {h : n < 2 ^ f.bitLen} : f.sep ∈ (ip f n h).text := by
  cases f <;> exact sep_mem_joinGroups

theorem sep_not_mem_text {f f' : Family} (hf : f ≠ f') {n : Nat} {h : n < 2 ^ f.bitLen} :
    f'.sep ∉ (ip f n h).text := fun hm => by
  rcases mem_joinGroups hm with hc | ⟨g, -, hg⟩
  · cases f <;> cases f' <;> simp_all [Family.sep]
  · obtain ⟨-, h4, h6, -⟩ := sep_not_mem_toDigits f.one_lt_base.1 f.one_lt_base.2 g
    cases f' <;> simp_all [Family.sep]

/-- A valid address prints a text that is not empty. -/
theorem string_ne_empty {a : Addr} (ha : a.isValid) : a.string ≠ "" := by
  match a, ha with
  | ip f n hn, _ => exact fun he => List.ne_nil_of_mem (sep_mem_text (h := hn)) (congrArg String.data he)

/-- A valid address prints a text no other address prints. -/
theorem string_inj {a b : Addr} (ha : a.isValid) (h : a.string = b.string) : a = b := by
  have ht : a.text = b.text := congrArg String.data h
  match a, b, ha with
  | ip f n hn, invalid m hm, _ => exact absurd (ht ▸ space_mem_text_invalid) space_not_mem_text
  | ip f n hn, ip f' n' hn', _ =>
    by_cases hf : f = f'
    · subst hf
      have hg := joinGroups_injective (fun g => (sep_not_mem_digits f g).1)
        (toDigits_injective f.one_lt_base.1 f.one_lt_base.2) (by simp [length_groupsOf]) ht
      have := congrArg (ofGroups f.groupBits) hg
      rw [ofGroups_groupsOf, ofGroups_groupsOf, ← Family.bitLen_eq, Nat.mod_eq_of_lt hn, Nat.mod_eq_of_lt hn'] at this
      subst this
      rfl
    · exact absurd (ht ▸ sep_mem_text) (sep_not_mem_text (Ne.symm hf))

/-- The walk from `s` to `e` prints distinct texts up to its last step. -/
theorem string_iterate_inj {s e : Addr} {d : Nat} (hd : stepsTo s e = some d) {i j : Nat} (hi : i ≤ d) (hj : j ≤ d)
    (h : (next^[i] s).string = (next^[j] s).string) : i = j :=
  iterate_injOn_stepsTo hd hi hj (string_inj (iterate_isValid_of_stepsTo hd hi) h)

end Addr

/-- A `netip.Prefix`: an address and a prefix length. -/
structure Prefix where
  addr : Addr
  bits : Nat
  deriving DecidableEq

end PredictableIP.Go
