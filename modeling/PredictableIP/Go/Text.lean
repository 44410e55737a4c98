import Mathlib

/-!
# Go's text functions on the names and numbers the controller handles

- the digits `Nat.toDigits` prints (Go's `%d`, and the groups of `netip.Addr.String`) read back to the number
  (`ofDigitChars_toDigits`), so printing a number is injective (`toDigits_injective`);
- `strconv.Atoi` on a 64-bit `int` (`atoi`), through `strconv.ParseInt` and `strconv.ParseUint`; it reads back every
  number `%d` prints that an `int64` holds (`atoi_toString`), and what it accepts from a string without `-` is not
  negative (`atoi_nonneg`);
- `strings.LastIndex` splits a string at the last occurrence of a character (`lastIndex_eq_some`), and fails exactly
  when there is none (`lastIndex_eq_none_iff`);
- `strings.LastIndex`, `HasPrefix`, `TrimPrefix` and `Contains`, on characters: Go indexes bytes, but the controller
  only splits at the one-byte `-`, which no multi-byte character contains.
-/

namespace PredictableIP.Go

/-! ## Digits -/

/-- The value of a digit that `Nat.digitChar` prints, and `16` for any other character. -/
def digitValue (c : Char) : Nat :=
  if '0' ≤ c ∧ c ≤ '9' then c.toNat - '0'.toNat
  else if 'a' ≤ c ∧ c ≤ 'f' then c.toNat - 'a'.toNat + 10
  else 16

theorem digitValue_digitChar : ∀ k < 16, digitValue (Nat.digitChar k) = k := by decide

/-- Digits read left to right in base `b`, after the value `acc` of the digits before them. -/
def ofDigitChars (b acc : Nat) (ds : List Char) : Nat :=
  ds.foldl (fun n c => b * n + digitValue c) acc

/-- What `Nat.toDigitsCore` prepends to its accumulator: the digits of `n`, which read back to `n`. -/
theorem toDigitsCore_spec {b : Nat} (hb : 1 < b) (hb' : b ≤ 16) :
    ∀ (fuel n : Nat) (ds : List Char), n < fuel →
      ∃ l, Nat.toDigitsCore b fuel n ds = l ++ ds ∧ ofDigitChars b 0 l = n ∧ ∀ c ∈ l, ∃ k < b, c = Nat.digitChar k
  | 0, _, _, h => absurd h (Nat.not_lt_zero _)
  | fuel + 1, n, ds, h => by
    have hmod : n % b < b := Nat.mod_lt _ (by omega)
    have hval : digitValue (Nat.digitChar (n % b)) = n % b := digitValue_digitChar _ (by omega)
    simp only [Nat.toDigitsCore]
    split
    · rename_i h0
      have hn : n < b := (Nat.div_eq_zero_iff (by omega)).mp h0
      refine ⟨[Nat.digitChar (n % b)], rfl, ?_, by simpa using ⟨n % b, hmod, rfl⟩⟩
      rw [Nat.mod_eq_of_lt hn] at hval ⊢
      simp [ofDigitChars, hval]
    · rename_i h0
      have hn : 0 < n := Nat.pos_of_ne_zero (by rintro rfl; simp at h0)
      have hlt : n / b < fuel := by
        have := Nat.div_lt_self hn hb
        omega
      obtain ⟨l, hl, hv, hd⟩ := toDigitsCore_spec hb hb' fuel (n / b) (Nat.digitChar (n % b) :: ds) hlt
      refine ⟨l ++ [Nat.digitChar (n % b)], by simp [hl], ?_, ?_⟩
      · simp only [ofDigitChars, List.foldl_append] at hv ⊢
        simp [hv, hval, Nat.div_add_mod]
      · intro c hc
        rcases List.mem_append.mp hc with hc | hc
        · exact hd c hc
        · exact ⟨n % b, hmod, by simpa using hc⟩

section Digits

variable {b : Nat} (hb : 1 < b) (hb' : b ≤ 16)
include hb hb'

theorem ofDigitChars_toDigits (n : Nat) : ofDigitChars b 0 (Nat.toDigits b n) = n := by
  obtain ⟨l, hl, hv, -⟩ := toDigitsCore_spec hb hb' (n + 1) n [] (Nat.lt_succ_self n)
  rw [Nat.toDigits, hl, List.append_nil, hv]

theorem toDigits_injective : Function.Injective (Nat.toDigits b) := fun m n h => by
  rw [← ofDigitChars_toDigits hb hb' m, h, ofDigitChars_toDigits hb hb' n]

theorem mem_toDigits {n : Nat} {c : Char} (h : c ∈ Nat.toDigits b n) : ∃ k < b, c = Nat.digitChar k := by
  obtain ⟨l, hl, -, hd⟩ := toDigitsCore_spec hb hb' (n + 1) n [] (Nat.lt_succ_self n)
  rw [Nat.toDigits, hl, List.append_nil] at h
  exact hd c h

end Digits

/-- `%d` prints distinct numbers differently. -/
theorem natToString_injective : Function.Injective (toString : Nat → String) := fun m n h => by
  have : Nat.toDigits 10 m = Nat.toDigits 10 n := congrArg String.data h
  exact toDigits_injective (by decide) (by decide) this

theorem append_toString_injective (pre : String) : Function.Injective (fun i : Nat => pre ++ toString i) :=
  fun m n h => by
    have := congrArg String.data h
    simp only [String.data_append] at this
    exact natToString_injective (String.ext (List.append_cancel_left this))

/-- No digit is a separator of a pod name or an address. -/
theorem digitChar_ne_sep : ∀ k < 16, Nat.digitChar k ≠ '-' ∧ Nat.digitChar k ≠ '.' ∧ Nat.digitChar k ≠ ':' ∧
    Nat.digitChar k ≠ ' ' := by decide

theorem sep_not_mem_toDigits {b : Nat} (hb : 1 < b) (hb' : b ≤ 16) (n : Nat) :
    '-' ∉ Nat.toDigits b n ∧ '.' ∉ Nat.toDigits b n ∧ ':' ∉ Nat.toDigits b n ∧ ' ' ∉ Nat.toDigits b n := by
  have key : ∀ c ∈ Nat.toDigits b n, c ≠ '-' ∧ c ≠ '.' ∧ c ≠ ':' ∧ c ≠ ' ' := by
    intro c hc
    obtain ⟨k, hk, rfl⟩ := mem_toDigits hb hb' hc
    exact digitChar_ne_sep k (by omega)
  exact ⟨fun h => (key _ h).1 rfl, fun h => (key _ h).2.1 rfl, fun h => (key _ h).2.2.1 rfl,
    fun h => (key _ h).2.2.2 rfl⟩

/-! ## `strconv.Atoi` -/

/-- The error of a failed `strconv` conversion (`strconv.ErrSyntax`, `strconv.ErrRange`), and the text converted. -/
inductive NumErrorKind
  | errSyntax
  | errRange
  deriving DecidableEq, Repr

/-- A `strconv.NumError` of `Atoi`. -/
structure NumError where
  num : String
  err : NumErrorKind
  deriving DecidableEq, Repr

/-- A decimal digit, as `ParseUint` accepts it for base 10. -/
def isDecimalDigit (c : Char) : Bool := '0' ≤ c && c ≤ '9'

/-- The loop of `strconv.ParseUint(s, 10, 64)` after `acc`: the first character that is not a digit is a syntax
error, a value past `2^64 - 1` a range error, whichever comes first. -/
def parseUint10 : Nat → List Char → Except NumErrorKind Nat
  | acc, [] => .ok acc
  | acc, c :: cs =>
    if isDecimalDigit c then
      if 10 * acc + digitValue c < 2 ^ 64 then parseUint10 (10 * acc + digitValue c) cs else .error .errRange
    else .error .errSyntax

/-- `strconv.ParseInt(s, 10, 64)` after its sign: `ParseUint` on the rest, then the range of `int64`. -/
def parseInt10 (neg : Bool) (ds : List Char) : Except NumErrorKind Int :=
  match ds with
  | [] => .error .errSyntax
  | _ :: _ =>
    match parseUint10 0 ds with
    | .error k => .error k
    | .ok un =>
      if !neg && 2 ^ 63 ≤ un then .error .errRange
      else if neg && 2 ^ 63 < un then .error .errRange
      else .ok (if neg then -(un : Int) else un)

/-- `strconv.Atoi` on a 64-bit `int`. Its fast path for strings of fewer than 19 bytes computes what `ParseInt`
computes, since such strings cannot overflow. -/
def atoi (s : String) : Except NumError Int :=
  let r : Except NumErrorKind Int :=
    match s.toList with
    | [] => .error .errSyntax
    | '-' :: ds => parseInt10 true ds
    | '+' :: ds => parseInt10 false ds
    | ds => parseInt10 false ds
  match r with
  | .error k => .error ⟨s, k⟩
  | .ok n => .ok n

theorem le_ofDigitChars {b : Nat} (hb : 0 < b) : ∀ (acc : Nat) (ds : List Char), acc ≤ ofDigitChars b acc ds
  | _, [] => le_rfl
  | acc, c :: cs =>
    calc acc ≤ b * acc + digitValue c := (Nat.le_mul_of_pos_left acc hb).trans (Nat.le_add_right _ _)
      _ ≤ ofDigitChars b acc (c :: cs) := le_ofDigitChars hb _ cs

/-- On digits whose value fits, the loop of `ParseUint` computes the value. -/
theorem parseUint10_digits : ∀ (acc : Nat) (ds : List Char), (∀ c ∈ ds, isDecimalDigit c = true) →
    ofDigitChars 10 acc ds < 2 ^ 64 → parseUint10 acc ds = .ok (ofDigitChars 10 acc ds)
  | _, [], _, _ => rfl
  | acc, c :: cs, hd, hlt => by
    have hnext : 10 * acc + digitValue c < 2 ^ 64 := (le_ofDigitChars (by norm_num) _ cs).trans_lt hlt
    rw [parseUint10, if_pos (hd c (List.mem_cons_self _ _)), if_pos hnext]
    exact parseUint10_digits _ cs (fun c' h' => hd c' (List.mem_cons_of_mem _ h')) hlt

theorem isDecimalDigit_digitChar : ∀ k < 10, isDecimalDigit (Nat.digitChar k) = true := by decide

/-- `Atoi` reads back what `%d` prints, for every value of `int64` that is not negative. -/
theorem atoi_toString {n : Nat} (hn : n < 2 ^ 63) : atoi (toString n) = .ok n := by
  have hv := ofDigitChars_toDigits (b := 10) (by decide) (by decide) n
  have hdig : ∀ c ∈ Nat.toDigits 10 n, isDecimalDigit c = true := fun c hc => by
    obtain ⟨k, hk, rfl⟩ := mem_toDigits (by decide) (by decide) hc
    exact isDecimalDigit_digitChar k hk
  have hparse : parseUint10 0 (Nat.toDigits 10 n) = .ok n := by
    rw [parseUint10_digits 0 _ hdig (by omega), hv]
  unfold atoi
  rw [show (toString n).toList = Nat.toDigits 10 n from rfl]
  cases h : Nat.toDigits 10 n with
  | nil =>
    rw [h] at hv
    subst hv
    exact absurd h (by decide)
  | cons c cs =>
    have hc := hdig c (by rw [h]; exact List.mem_cons_self _ _)
    rw [h] at hparse
    split
    · rename_i heq; cases heq
    · rename_i heq; cases heq; exact absurd hc (by decide)
    · rename_i heq; cases heq; exact absurd hc (by decide)
    · simp only [parseInt10, hparse, Bool.not_false, Bool.true_and, Bool.false_and, decide_eq_true_eq,
        if_neg hn.not_le, Bool.false_eq_true, if_false]

theorem parseInt10_nonneg {ds : List Char} {k : Int} (h : parseInt10 false ds = .ok k) : 0 ≤ k := by
  unfold parseInt10 at h
  split at h
  · cases h
  · split at h
    · cases h
    · simp only [Bool.false_and, Bool.false_eq_true, if_false] at h
      split_ifs at h
      cases h
      exact Int.natCast_nonneg _

/-- Without a `-` there is no minus sign: what `Atoi` accepts is not negative. -/
theorem atoi_nonneg {s : String} {k : Int} (hs : '-' ∉ s.toList) (h : atoi s = .ok k) : 0 ≤ k := by
  unfold atoi at h
  dsimp only at h
  split at h
  · cases h
  · rename_i heq
    cases h
    split at heq
    · cases heq
    · rename_i hl
      exact absurd (hl ▸ List.mem_cons_self _ _) hs
    all_goals exact parseInt10_nonneg heq

/-! ## `strings` -/

/-- `strings.LastIndex(s, string(c))`: the index of the last `c` in `s`, `none` for Go's `-1`. -/
def lastIndex : List Char → Char → Option Nat
  | [], _ => none
  | x :: xs, c =>
    match lastIndex xs c with
    | some i => some (i + 1)
    | none => if x = c then some 0 else none

/-- `LastIndex` fails exactly when the character is absent. -/
theorem lastIndex_eq_none_iff {c : Char} : ∀ {l : List Char}, lastIndex l c = none ↔ c ∉ l
  | [] => by simp [lastIndex]
  | x :: xs => by
    rw [lastIndex, List.mem_cons, not_or]
    cases h : lastIndex xs c with
    | some i =>
      have hc : c ∈ xs := not_not.mp (mt lastIndex_eq_none_iff.mpr (by rw [h]; exact Option.some_ne_none i))
      simp [hc]
    | none =>
      rcases eq_or_ne x c with rfl | hx
      · simp
      · simp [hx, hx.symm, lastIndex_eq_none_iff.mp h]

/-- What `LastIndex` finds: the string splits there into a prefix, `c`, and a suffix without `c`. -/
theorem lastIndex_eq_some {c : Char} : ∀ {l : List Char} {i : Nat}, lastIndex l c = some i →
    ∃ pre post, l = pre ++ c :: post ∧ c ∉ post ∧ i = pre.length
  | [], _, h => by cases h
  | x :: xs, i, h => by
    rw [lastIndex] at h
    cases hxs : lastIndex xs c with
    | some j =>
      rw [hxs] at h
      cases h
      obtain ⟨pre, post, rfl, hpost, rfl⟩ := lastIndex_eq_some hxs
      exact ⟨x :: pre, post, rfl, hpost, rfl⟩
    | none =>
      rw [hxs] at h
      dsimp only at h
      split_ifs at h with hx
      cases h
      subst hx
      exact ⟨[], xs, rfl, lastIndex_eq_none_iff.mp hxs, rfl⟩

/-- The last `c` of `l ++ c :: r` is the one before `r` when `r` holds none. -/
theorem lastIndex_append_cons {c : Char} {r : List Char} (hr : c ∉ r) :
    ∀ l : List Char, lastIndex (l ++ c :: r) c = some l.length
  | [] => by rw [List.nil_append, lastIndex, lastIndex_eq_none_iff.mpr hr, if_pos rfl]; rfl
  | x :: xs => by rw [List.cons_append, lastIndex, lastIndex_append_cons hr xs]; rfl

/-- `strings.HasPrefix`. -/
def hasPrefix (s p : String) : Bool := p.toList.isPrefixOf s.toList

/-- `strings.TrimPrefix`. -/
def trimPrefix (s p : String) : String := if hasPrefix s p then ⟨s.toList.drop p.length⟩ else s

/-- `strings.Contains`. -/
def contains (s sub : String) : Bool := decide (sub.toList <:+: s.toList)

end PredictableIP.Go
