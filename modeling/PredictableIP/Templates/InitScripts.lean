import PredictableIP.Designate.Funcs

/-!
# The init scripts read the pod's ordinal as the controller does

Three components take a pod's index from its name. The controller reads it with `ExtractPodIndexFromName`; the
init containers read it with text tools:

- `set-predictable-ip.sh` sets `POD_INDEX` to `echo "${POD_NAME}"` piped through a `sed` that deletes `.*-` on each
  line (`podIndexOfName`), exits unless that text matches `^[0-9]+$`, and writes `PREDICTABLE_IP` and `POD_INDEX`
  to `predictable-ip.env` (`setPredictableIP`);
- the bind9 `init.sh` turns every dash of `POD_NAME` into a space, splits the result into words, and copies the rndc
  key named by the last one (`rndcKeyFilename`).

The main result:

- **`initScripts_podIndex_agree`**: for every name a StatefulSet gives a pod, on one line, both scripts take the
  decimal text of the ordinal `ExtractPodIndexFromName` reads, which is the text the controller writes as the pod's
  `pod-index` annotation.
-/

namespace PredictableIP.Templates

open Go Designate

/-! ## Shell text tools -/

/-- Whether an argument is an option of bash's `echo`: a dash and then only the letters `n`, `e` and `E`. -/
def isEchoOption (arg : List Char) : Bool :=
  arg.head? == some '-' && !arg.tail.isEmpty && arg.tail.all fun c => c == 'n' || c == 'e' || c == 'E'

/-- Bash's `echo` of one argument: the argument and a newline. An argument that is an option prints nothing with `-n`
and a newline alone otherwise (`echo` reads no escape without `-e`, and `-e` leaves nothing to read). -/
def echo (arg : List Char) : List Char :=
  if isEchoOption arg then (if 'n' ∈ arg then [] else ['\n']) else arg ++ ['\n']

/-- The `sed` substitution of nothing for `.*-` on one line: everything up to and including the last dash goes. -/
def stripThroughLastDash (line : List Char) : List Char :=
  match lastIndex line '-' with
  | some i => line.drop (i + 1)
  | none => line

/-- The `sed` of `set-predictable-ip.sh` on a text: the substitution on every line, the newlines kept. -/
def sedStripThroughLastDash (text : List Char) : List Char :=
  ['\n'].intercalate ((text.splitOn '\n').map stripThroughLastDash)

/-- A command substitution `$(...)`: the command's output without its trailing newlines. -/
def commandSubstitution (out : List Char) : List Char := out.rdropWhile (· == '\n')

/-- Bash word splitting with the default `IFS`: the maximal runs of characters other than space, tab and newline. -/
def wordSplit (text : List Char) : List (List Char) :=
  (text.splitOnP fun c => c == ' ' || c == '\t' || c == '\n').filter (!·.isEmpty)

/-- The pattern substitution of a space for every dash in `POD_NAME`. -/
def dashesToSpaces (s : List Char) : List Char := s.map fun c => if c = '-' then ' ' else c

/-! ## The scripts -/

/-- `POD_INDEX` of `set-predictable-ip.sh`: the command substitution of `echo "${POD_NAME}"` piped through its
`sed`. -/
def podIndexOfName (podName : String) : String :=
  ⟨commandSubstitution (sedStripThroughLastDash (echo podName.toList))⟩

/-- `[[ "${POD_INDEX}" =~ ^[0-9]+$ ]]`. -/
def isOrdinalText (s : String) : Bool := !s.toList.isEmpty && s.toList.all isDecimalDigit

/-- `set-predictable-ip.sh` run with `POD_NAME` and `PREDICTABLE_IP_FROM_ANNOTATION`: the text it writes to
`predictable-ip.env`, or the error it exits with. `sourced` is what `PREDICTABLE_IP` holds after the script sources an
existing `predictable-ip.env`, and `none` where there is no such file. -/
def setPredictableIP (podName predictableIPFromAnnotation : String) (sourced : Option String) :
    Except String String :=
  if podName = "" then .error "ERROR: POD_NAME environment variable is required"
  else
    let podIndex := podIndexOfName podName
    if !isOrdinalText podIndex then .error s!"ERROR: Could not extract pod index from pod name: {podName}"
    else
      let predictableIP : Except String String :=
        if predictableIPFromAnnotation ≠ "" then .ok predictableIPFromAnnotation
        else
          match sourced with
          | some ip => if ip ≠ "" then .ok ip else .error "ERROR: No predictable IP found in existing file"
          | none => .error "ERROR: No predictable IP available from annotations or existing file"
      predictableIP.map fun ip => s!"export PREDICTABLE_IP={ip}\nexport POD_INDEX={podIndex}\n"

/-- The rndc key file the bind9 `init.sh` copies for a pod: `${rndc_prefix}` and the last word of `POD_NAME` with its
dashes made spaces, split with globbing off (`set -f`). `none` where the script exits: an empty `POD_NAME`, or a name
of no word, where `${name_parts[-1]}` is a bad subscript. -/
def rndcKeyFilename (podName rndcPrefixEnv : String) : Option String :=
  if podName = "" then none
  else
    let rndcPrefix := if rndcPrefixEnv = "" then "rndc-key-" else rndcPrefixEnv ++ "-"
    (wordSplit (dashesToSpaces podName.toList)).getLast?.map fun podIndex =>
      "/var/lib/config-data/keys/" ++ rndcPrefix ++ ⟨podIndex⟩

/-! ## The digits of an ordinal -/

theorem isDecimalDigit_of_mem_toDigits {n : Nat} {c : Char} (hc : c ∈ Nat.toDigits 10 n) :
    isDecimalDigit c = true := by
  obtain ⟨k, hk, rfl⟩ := mem_toDigits (by decide) (by decide) hc
  exact isDecimalDigit_digitChar k hk

theorem toDigits_ne_nil (n : Nat) : Nat.toDigits 10 n ≠ [] := fun h => by
  have hv := ofDigitChars_toDigits (b := 10) (by decide) (by decide) n
  rw [h] at hv
  subst hv
  exact absurd h (by decide)

/-- A character that is no digit is not among an ordinal's digits. -/
theorem not_mem_toDigits {c : Char} (hc : isDecimalDigit c = false) (n : Nat) : c ∉ Nat.toDigits 10 n :=
  fun h => by rw [isDecimalDigit_of_mem_toDigits h] at hc; cases hc

/-! ## Each script on a StatefulSet's pod name -/

/-- Splitting at a separator splits the text on either side of it. -/
theorem splitOnP_append_cons {α : Type} (p : α → Bool) (sep : α) (hsep : p sep = true) :
    ∀ xs ys : List α, (xs ++ sep :: ys).splitOnP p = xs.splitOnP p ++ ys.splitOnP p
  | [], ys => by simp [hsep]
  | x :: xs, ys => by
    rw [List.cons_append, List.splitOnP_cons, List.splitOnP_cons, splitOnP_append_cons p sep hsep xs ys]
    split
    · rfl
    · obtain ⟨w, ws, hw⟩ := List.exists_cons_of_ne_nil (List.splitOnP_ne_nil p xs)
      rw [hw]
      rfl

theorem ne_empty_dash_toString (s : String) (n : Nat) : s ++ "-" ++ toString n ≠ "" := fun h => by
  have := congrArg String.toList h
  rw [toList_dash_toString] at this
  simp at this

section Ordinal

variable {pre : List Char} {n : Nat}

theorem isEchoOption_dash_toDigits : isEchoOption (pre ++ '-' :: Nat.toDigits 10 n) = false := by
  obtain ⟨d, hd⟩ := List.exists_mem_of_ne_nil _ (toDigits_ne_nil n)
  have hopt : ¬(d == 'n' || d == 'e' || d == 'E') = true := fun h => by
    simp only [Bool.or_eq_true, beq_iff_eq] at h
    rcases h with (rfl | rfl) | rfl <;> exact not_mem_toDigits (by decide) n hd
  have htail : d ∈ (pre ++ '-' :: Nat.toDigits 10 n).tail := by cases pre <;> simp [hd]
  have hall : (pre ++ '-' :: Nat.toDigits 10 n).tail.all (fun c => c == 'n' || c == 'e' || c == 'E') = false :=
    List.all_eq_false.mpr ⟨d, htail, hopt⟩
  simp only [isEchoOption, hall, Bool.and_false]

theorem stripThroughLastDash_dash_toDigits : stripThroughLastDash (pre ++ '-' :: Nat.toDigits 10 n) =
    Nat.toDigits 10 n := by
  simp [stripThroughLastDash, lastIndex_append_cons (not_mem_toDigits (by decide : isDecimalDigit '-' = false) n)]

/-- `POD_INDEX` of every name `<pre>-<ordinal>` on one line is the ordinal's decimal text. -/
theorem podIndexOfName_ordinal (s : String) (hline : '\n' ∉ s.toList) (n : Nat) :
    podIndexOfName (s ++ "-" ++ toString n) = toString n := by
  have hnl : ∀ c ∈ s.toList ++ '-' :: Nat.toDigits 10 n, ¬(c == '\n') = true := by
    rintro c hc heq
    rw [beq_iff_eq] at heq
    subst heq
    simp only [List.mem_append, List.mem_cons] at hc
    rcases hc with h | h | h
    exacts [hline h, absurd h (by decide), not_mem_toDigits (by decide) n h]
  have hlast : ∀ h, ¬((Nat.toDigits 10 n).getLast h == '\n') = true := fun h => by
    simpa using hnl _ (List.mem_append_right _ (List.mem_cons_of_mem _ (List.getLast_mem h)))
  simp only [podIndexOfName, toList_dash_toString, echo, isEchoOption_dash_toDigits, sedStripThroughLastDash,
    List.splitOn, List.splitOnP_first _ _ hnl '\n' rfl, List.splitOnP_nil, List.map_cons,
    stripThroughLastDash_dash_toDigits, commandSubstitution, Bool.false_eq_true, if_false]
  simp only [stripThroughLastDash, lastIndex, List.map_nil, List.intercalate, List.intersperse_cons₂,
    List.intersperse_single, List.flatten, List.append_nil]
  rw [List.rdropWhile_concat_pos _ _ _ rfl, List.rdropWhile_eq_self_iff.mpr hlast]
  rfl

theorem dashesToSpaces_dash_toDigits :
    dashesToSpaces (pre ++ '-' :: Nat.toDigits 10 n) = dashesToSpaces pre ++ ' ' :: Nat.toDigits 10 n := by
  have hdigits : (Nat.toDigits 10 n).map (fun c => if c = '-' then ' ' else c) = Nat.toDigits 10 n :=
    (List.map_congr_left fun c hc => if_neg fun h => not_mem_toDigits (by decide) n (h ▸ hc)).trans (List.map_id _)
  simp only [dashesToSpaces, List.map_append, List.map_cons, if_pos, hdigits]

/-- The last word of every name `<pre> <ordinal>` is the ordinal's digits. -/
theorem wordSplit_getLast_toDigits (pre : List Char) (n : Nat) :
    (wordSplit (pre ++ ' ' :: Nat.toDigits 10 n)).getLast? = some (Nat.toDigits 10 n) := by
  have hnosep : ∀ c ∈ Nat.toDigits 10 n, ¬(c == ' ' || c == '\t' || c == '\n') = true := fun c hc h => by
    simp only [Bool.or_eq_true, beq_iff_eq] at h
    rcases h with (rfl | rfl) | rfl <;> exact not_mem_toDigits (by decide) n hc
  have hne : (!(Nat.toDigits 10 n).isEmpty) = true := by simp [toDigits_ne_nil]
  simp only [wordSplit, splitOnP_append_cons (fun c => c == ' ' || c == '\t' || c == '\n') ' ' rfl,
    List.splitOnP_eq_single _ _ hnosep, List.filter_append,
    List.filter_cons, hne, if_true, List.filter_nil, List.getLast?_concat]

/-- The rndc key of every name `<pre>-<ordinal>` is the one named by the ordinal's decimal text. -/
theorem rndcKeyFilename_ordinal (s rndcPrefixEnv : String) (n : Nat) :
    rndcKeyFilename (s ++ "-" ++ toString n) rndcPrefixEnv =
      some ("/var/lib/config-data/keys/" ++ (if rndcPrefixEnv = "" then "rndc-key-" else rndcPrefixEnv ++ "-") ++
        toString n) := by
  rw [rndcKeyFilename, if_neg (ne_empty_dash_toString s n), toList_dash_toString, dashesToSpaces_dash_toDigits,
    wordSplit_getLast_toDigits]
  rfl

end Ordinal

/-- The decimal text of every ordinal matches `^[0-9]+$`. -/
theorem isOrdinalText_toString (n : Nat) : isOrdinalText (toString n) = true := by
  have hall : (Nat.toDigits 10 n).all isDecimalDigit = true :=
    List.all_eq_true.mpr fun _ => isDecimalDigit_of_mem_toDigits
  show (!(Nat.toDigits 10 n).isEmpty && (Nat.toDigits 10 n).all isDecimalDigit) = true
  simp [hall, toDigits_ne_nil]

/-- `set-predictable-ip.sh`, on every name `<pre>-<ordinal>` on one line and an address in the annotation, writes
that address and the ordinal's decimal text. -/
theorem setPredictableIP_ordinal (s ip : String) (sourced : Option String) (hline : '\n' ∉ s.toList) (n : Nat)
    (hip : ip ≠ "") :
    setPredictableIP (s ++ "-" ++ toString n) ip sourced =
      .ok ("export PREDICTABLE_IP=" ++ ip ++ "\nexport POD_INDEX=" ++ toString n ++ "\n") := by
  simp only [setPredictableIP, if_neg (ne_empty_dash_toString s n), podIndexOfName_ordinal s hline n,
    isOrdinalText_toString, if_pos hip]
  rfl

/-! ## The three readings agree -/

/-- **The init scripts take the controller's ordinal.** For every pod a StatefulSet names `<name>-<ordinal>`, with
the StatefulSet's name on one line and an ordinal an `int64` holds, `ExtractPodIndexFromName` reads the ordinal, and
both scripts take its decimal text, which the controller writes as the `pod-index` annotation: `set-predictable-ip.sh`
exports it as `POD_INDEX`, beside the address of the `predictable-ip` annotation, and the bind9 `init.sh` copies the
rndc key it names. -/
theorem initScripts_podIndex_agree (setName rndcPrefix ip : String) (sourced : Option String) {n : Nat}
    (hline : '\n' ∉ setName.toList) (hn : n < 2 ^ 63) (hip : ip ≠ "") (hpre : rndcPrefix ≠ "") :
    extractPodIndexFromName (setName ++ "-" ++ toString n) = .ok n ∧
      setPredictableIP (setName ++ "-" ++ toString n) ip sourced =
        .ok ("export PREDICTABLE_IP=" ++ ip ++ "\nexport POD_INDEX=" ++ toString n ++ "\n") ∧
      rndcKeyFilename (setName ++ "-" ++ toString n) rndcPrefix =
        some ("/var/lib/config-data/keys/" ++ rndcPrefix ++ "-" ++ toString n) := by
  refine ⟨extractPodIndexFromName_ordinal setName hn, setPredictableIP_ordinal setName ip sourced hline n hip, ?_⟩
  rw [rndcKeyFilename_ordinal, if_neg hpre, ← String.append_assoc]

theorem initScripts_podIndex_agree_sample :
    '\n' ∉ "designate-backendbind9".toList ∧ (1 : Nat) < 2 ^ 63 ∧ "172.28.0.81" ≠ "" ∧ "designate-rndc-key" ≠ "" ∧
      (extractPodIndexFromName ("designate-backendbind9" ++ "-" ++ toString (1 : Nat)) = .ok 1 ∧
        setPredictableIP ("designate-backendbind9" ++ "-" ++ toString (1 : Nat)) "172.28.0.81" none =
          .ok ("export PREDICTABLE_IP=" ++ "172.28.0.81" ++ "\nexport POD_INDEX=" ++ toString (1 : Nat) ++ "\n") ∧
        rndcKeyFilename ("designate-backendbind9" ++ "-" ++ toString (1 : Nat)) "designate-rndc-key" =
          some ("/var/lib/config-data/keys/" ++ "designate-rndc-key" ++ "-" ++ toString (1 : Nat))) :=
  have hline : '\n' ∉ "designate-backendbind9".toList := by decide
  have hn : (1 : Nat) < 2 ^ 63 := by norm_num
  have hip : "172.28.0.81" ≠ "" := by decide
  have hpre : "designate-rndc-key" ≠ "" := by decide
  ⟨hline, hn, hip, hpre, initScripts_podIndex_agree _ _ _ none hline hn hip hpre⟩

end PredictableIP.Templates
