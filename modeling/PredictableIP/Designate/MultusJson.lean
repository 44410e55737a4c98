import PredictableIP.Designate.Funcs

/-!
# The Multus annotation reads back as its networks

`CreateMultusAnnotation` writes the networks of a pod as `json.Marshal` does (`Funcs.lean`), and Multus reads the
annotation as JSON. This module gives the reading side: `readMultusNetworks` reads the compact JSON that
`json.Marshal` writes (strings with every escape JSON has, arrays and objects, no whitespace), and decodes each
object into a `MultusNetworkConfig`, a field the object does not hold keeping its zero value, as `json.Unmarshal`
leaves it. The empty annotation is no network.

* `readStringBody_jsonChar`: every character `jsonChar` escapes reads back, the `\u` escapes of control and HTML
  characters included (`hexPad_spec`).
* `Reads t v` says that text `t` reads as `v` whatever follows it, from fuel at least its length. Strings, arrays of
  what reads and objects of what reads read (`reads_jsonString`, `reads_array`, `reads_object`), and so does every
  network's object (`reads_json`), which decodes back to the network (`decodeNetwork_networkValue`): an omitted
  field's zero value is the value it had.
* **`createMultusAnnotation_round_trip`**: every list of networks reads back from its annotation, whatever
  characters its names, interfaces and addresses hold.
* **`createPerPodPredictableAnnotations_read`**: the annotations of a pod agree: Multus reads the network annotation as
  the one network with the address of the predictable IP annotation, the one `GetPodPredictableIP` computes.
-/

namespace PredictableIP.Designate

open Go

/-! ## Hexadecimal digits -/

/-- The value of a hexadecimal digit, of either case. -/
def hexValue (c : Char) : Option Nat :=
  if '0' ≤ c ∧ c ≤ '9' then some (c.toNat - '0'.toNat)
  else if 'a' ≤ c ∧ c ≤ 'f' then some (c.toNat - 'a'.toNat + 10)
  else if 'A' ≤ c ∧ c ≤ 'F' then some (c.toNat - 'A'.toNat + 10)
  else none

/-- The number that hexadecimal digits write, most significant first. -/
def readHex (l : List Char) : Option Nat :=
  l.foldlM (fun acc c => (hexValue c).map (16 * acc + ·)) 0

theorem hexValue_digitChar : ∀ k < 16, hexValue (Nat.digitChar k) = some k := by decide

theorem foldlM_hexValue {l : List Char} (hl : ∀ c ∈ l, ∃ k < 16, c = Nat.digitChar k) (acc : Nat) :
    l.foldlM (fun acc c => (hexValue c).map (16 * acc + ·)) acc = some (ofDigitChars 16 acc l) := by
  induction l generalizing acc with
  | nil => rfl
  | cons c l ih =>
    obtain ⟨k, hk, rfl⟩ := hl c (List.mem_cons_self _ _)
    simpa [hexValue_digitChar k hk, ofDigitChars, digitValue_digitChar k hk] using
      ih (fun c hc => hl c (List.mem_cons_of_mem _ hc)) (16 * acc + k)

theorem ofDigitChars_zeros (b n : Nat) (ds : List Char) :
    ofDigitChars b 0 (List.replicate n '0' ++ ds) = ofDigitChars b 0 ds := by
  have h0 : digitValue '0' = 0 := by decide
  induction n with
  | zero => rfl
  | succ n ih => simpa [ofDigitChars, List.replicate_succ, h0] using ih

/-- The four digits of a `\u` escape: the hexadecimal digits of a code below `16 ^ 4`, padded with zeros, read
back as the code. -/
theorem hexPad_spec {n : Nat} (hn : n < 16 ^ 4) : ∃ a b c d,
    List.replicate (4 - (Nat.toDigits 16 n).length) '0' ++ Nat.toDigits 16 n = [a, b, c, d] ∧
      readHex [a, b, c, d] = some n := by
  have hlen : (Nat.toDigits 16 n).length ≤ 4 := Nat.toDigitsCore_length 16 (by norm_num) _ _ 4 hn (by norm_num)
  have hdig : ∀ x ∈ List.replicate (4 - (Nat.toDigits 16 n).length) '0' ++ Nat.toDigits 16 n,
      ∃ k < 16, x = Nat.digitChar k := by
    intro x hx
    rcases List.mem_append.mp hx with hx | hx
    · exact ⟨0, by norm_num, (List.eq_of_mem_replicate hx).trans rfl⟩
    · exact mem_toDigits (by norm_num) (by norm_num) hx
  have hread : readHex (List.replicate (4 - (Nat.toDigits 16 n).length) '0' ++ Nat.toDigits 16 n) = some n := by
    rw [readHex, foldlM_hexValue hdig, ofDigitChars_zeros, ofDigitChars_toDigits (by norm_num) (by norm_num)]
  have h4 : (List.replicate (4 - (Nat.toDigits 16 n).length) '0' ++ Nat.toDigits 16 n).length = 4 := by
    simp; omega
  match List.replicate (4 - (Nat.toDigits 16 n).length) '0' ++ Nat.toDigits 16 n, h4, hread with
  | [a, b, c, d], _, hread => exact ⟨a, b, c, d, rfl, hread⟩

/-! ## Strings -/

/-- The character a one-letter escape stands for. -/
def unescape (e : Char) : Option Char :=
  match e with
  | '"' => some '"'
  | '\\' => some '\\'
  | '/' => some '/'
  | 'b' => some (Char.ofNat 8)
  | 'f' => some (Char.ofNat 12)
  | 'n' => some '\n'
  | 'r' => some '\r'
  | 't' => some '\t'
  | _ => none

/-- The body of a JSON string after its opening quote: its characters, and the text after its closing quote. An
unescaped control character, an unknown escape, and a `\u` escape of a surrogate half, which `json.Marshal` never
writes, are refused. -/
def readStringBody : List Char → Option (List Char × List Char)
  | [] => none
  | c :: cs =>
    if c = '"' then some ([], cs)
    else if c = '\\' then
      match cs with
      | 'u' :: a :: b :: c :: d :: cs =>
        match readHex [a, b, c, d] with
        | some v =>
          if 0xD800 ≤ v ∧ v ≤ 0xDFFF then none else (readStringBody cs).map (Prod.map (Char.ofNat v :: ·) id)
        | none => none
      | e :: cs =>
        match unescape e with
        | some c => (readStringBody cs).map (Prod.map (c :: ·) id)
        | none => none
      | [] => none
    else if c.toNat < 0x20 then none
    else (readStringBody cs).map (Prod.map (c :: ·) id)

/-- Every character reads back from what `jsonChar` writes for it. -/
theorem readStringBody_jsonChar (c : Char) (rest : List Char) :
    readStringBody (jsonChar c ++ rest) = (readStringBody rest).map (Prod.map (c :: ·) id) := by
  unfold jsonChar
  split_ifs with h1 h2 h3 h4 h5 h6
  · subst h1; rfl
  · subst h2; rfl
  · subst h3; rfl
  · subst h4; rfl
  · subst h5; rfl
  · -- a `\u` escape
    have hc : c.toNat < 0x2030 := by rcases h6 with h | rfl | rfl | rfl | h | h <;> first | omega | decide
    obtain ⟨a, b, c', d, hq, hv⟩ := hexPad_spec (n := c.toNat) (by omega)
    have hsplit : ['\\', 'u'] ++ List.replicate (4 - (Nat.toDigits 16 c.toNat).length) '0' ++
        Nat.toDigits 16 c.toNat ++ rest = '\\' :: 'u' :: a :: b :: c' :: d :: rest := by
      simp only [List.append_assoc]
      rw [← List.append_assoc _ (Nat.toDigits 16 c.toNat), hq]; rfl
    rw [hsplit, readStringBody.eq_2, if_neg (by decide), if_pos rfl]
    simp only [hv, Char.ofNat_toNat]
    rw [if_neg (by omega)]
  · -- written as itself
    push_neg at h6
    rw [List.singleton_append, readStringBody.eq_def]
    dsimp only
    rw [if_neg h1, if_neg h2, if_neg (by omega)]

theorem readStringBody_flatMap (s rest : List Char) :
    readStringBody (s.flatMap jsonChar ++ '"' :: rest) = some (s, rest) := by
  induction s with
  | nil => rw [List.flatMap_nil, List.nil_append, readStringBody.eq_def]; rfl
  | cons c s ih => rw [List.flatMap_cons, List.append_assoc, readStringBody_jsonChar, ih]; rfl

/-! ## Values -/

/-- A JSON value of the kinds a marshalled network list holds. -/
inductive JVal
  | str (s : String)
  | arr (l : List JVal)
  | obj (m : List (String × JVal))

mutual

/-- A value and the text after it, from `n` levels of fuel. -/
def readValue : Nat → List Char → Option (JVal × List Char)
  | 0, _ => none
  | _ + 1, [] => none
  | n + 1, c :: cs =>
    if c = '"' then (readStringBody cs).map (Prod.map (fun s => .str ⟨s⟩) id)
    else if c = '[' then
      if cs.head? = some ']' then some (.arr [], cs.tail) else (readElements n cs).map (Prod.map .arr id)
    else if c = '\x7b' then
      if cs.head? = some '\x7d' then some (.obj [], cs.tail) else (readMembers n cs).map (Prod.map .obj id)
    else none

/-- The elements of a non-empty array after its `[`, up to its `]`. -/
def readElements : Nat → List Char → Option (List JVal × List Char)
  | 0, _ => none
  | n + 1, cs =>
    match readValue n cs with
    | some (v, ',' :: rest) => (readElements n rest).map (Prod.map (v :: ·) id)
    | some (v, ']' :: rest) => some ([v], rest)
    | _ => none

/-- The members of a non-empty object after its opening brace, up to its closing one. -/
def readMembers : Nat → List Char → Option (List (String × JVal) × List Char)
  | 0, _ => none
  | n + 1, cs =>
    match cs with
    | '"' :: cs =>
      match readStringBody cs with
      | some (k, ':' :: rest) =>
        match readValue n rest with
        | some (v, ',' :: rest) => (readMembers n rest).map (Prod.map ((⟨k⟩, v) :: ·) id)
        | some (v, '\x7d' :: rest) => some ([(⟨k⟩, v)], rest)
        | _ => none
      | _ => none
    | _ => none

end

/-! ## Joined lists -/

@[simp] theorem toList_append (s t : String) : (s ++ t).toList = s.toList ++ t.toList := rfl

@[simp] theorem intercalate_singleton (s a : String) : s.intercalate [a] = a := rfl

theorem intercalate_go_append (s : String) :
    ∀ (l : List String) (acc x : String), String.intercalate.go (acc ++ x) s l = acc ++ String.intercalate.go x s l
  | [], _, _ => rfl
  | a :: l, acc, x => by
    simp only [String.intercalate.go, String.append_assoc]
    exact intercalate_go_append s l acc _

theorem intercalate_cons_cons (s a b : String) (l : List String) :
    s.intercalate (a :: b :: l) = a ++ s ++ s.intercalate (b :: l) := by
  show String.intercalate.go (a ++ s ++ b) s l = a ++ s ++ String.intercalate.go b s l
  rw [String.append_assoc, intercalate_go_append, intercalate_go_append, String.append_assoc]

theorem toList_intercalate_cons (s a : String) (l : List String) :
    ∃ rest, (s.intercalate (a :: l)).toList = a.toList ++ rest := by
  cases l with
  | nil => exact ⟨[], by simp⟩
  | cons b l => exact ⟨(s ++ s.intercalate (b :: l)).toList, by rw [intercalate_cons_cons]; simp⟩

/-! ## Reading what the writer writes -/

/-- Text `t` reads as the value `v` from fuel at least its length, whatever follows it. -/
def Reads (t : List Char) (v : JVal) : Prop :=
  ∀ n r, t.length ≤ n → readValue n (t ++ r) = some (v, r)

/-- What reads is not empty and does not start with a closing bracket or brace. -/
theorem Reads.head {t : List Char} {v : JVal} (h : Reads t v) : ∃ c t', t = c :: t' ∧ c ≠ ']' ∧ c ≠ '\x7d' := by
  match t, h with
  | [], h => simpa [readValue] using h 0 [] le_rfl
  | c :: t', h =>
    refine ⟨c, t', rfl, ?_, ?_⟩ <;> rintro rfl <;> simpa [readValue] using h (t'.length + 1) [] le_rfl

theorem reads_jsonString (s : String) : Reads (jsonString s).toList (.str s) := by
  intro n r hn
  obtain ⟨n, rfl⟩ : ∃ m, n = m + 1 := ⟨n - 1, by simp [jsonString] at hn; omega⟩
  show readValue (n + 1) ('"' :: (s.toList.flatMap jsonChar ++ ['"'] ++ r)) = _
  simp only [readValue, if_pos, List.append_assoc, List.singleton_append, readStringBody_flatMap]
  rfl

section Lists

variable (r : List Char)

theorem readElements_intercalate :
    ∀ (ts : List (String × JVal)), ts ≠ [] → (∀ p ∈ ts, Reads p.1.toList p.2) →
      ∀ n, (",".intercalate (ts.map Prod.fst)).toList.length < n →
        readElements n ((",".intercalate (ts.map Prod.fst)).toList ++ ']' :: r) = some (ts.map Prod.snd, r)
  | [], h, _, _, _ => absurd rfl h
  | [(t, v)], _, hr, n + 1, hn => by
    have := hr (t, v) (List.mem_singleton_self _) n (']' :: r) (by simp at hn ⊢; omega)
    dsimp only at this
    simp only [List.map_cons, List.map_nil, intercalate_singleton, readElements, this]
  | (t, v) :: p :: ts, _, hr, n + 1, hn => by
    have hrest := readElements_intercalate (p :: ts) (List.cons_ne_nil _ _)
      (fun q hq => hr q (List.mem_cons_of_mem _ hq)) n
    have hv := hr (t, v) (List.mem_cons_self _ _) n
    simp only [List.map_cons, intercalate_cons_cons, toList_append, List.length_append] at hn hrest hv ⊢
    have hsplit : ∀ I : List Char, t.toList ++ ",".toList ++ I ++ ']' :: r = t.toList ++ ',' :: (I ++ ']' :: r) := by
      simp
    have h1 : ",".toList.length = 1 := rfl
    rw [hsplit, readElements, hv _ (by omega)]
    simp only [hrest (by omega)]
    rfl

/-- A member of an object as the writer puts it: the key's JSON string, a colon and the value's text. -/
def memberText (m : String × String × JVal) : String := jsonString m.1 ++ ":" ++ m.2.1

theorem toList_memberText (k t : String) (v : JVal) :
    (memberText (k, t, v)).toList = '"' :: (k.toList.flatMap jsonChar ++ '"' :: ':' :: t.toList) := by
  simp [memberText, jsonString]

theorem readMembers_intercalate :
    ∀ (ms : List (String × String × JVal)), ms ≠ [] → (∀ m ∈ ms, Reads m.2.1.toList m.2.2) →
      ∀ n, (",".intercalate (ms.map memberText)).toList.length < n →
        readMembers n ((",".intercalate (ms.map memberText)).toList ++ '\x7d' :: r) =
          some (ms.map fun m => (m.1, m.2.2), r)
  | [], h, _, _, _ => absurd rfl h
  | [(k, t, v)], _, hr, n + 1, hn => by
    have hv := hr (k, t, v) (List.mem_singleton_self _) n ('\x7d' :: r)
    simp only [List.map_cons, List.map_nil, intercalate_singleton, toList_memberText, List.length_cons,
      List.length_append, List.cons_append, List.append_assoc] at hn hv ⊢
    simp only [readMembers, readStringBody_flatMap, hv (by omega)]
    rfl
  | (k, t, v) :: m :: ms, _, hr, n + 1, hn => by
    have hrest := readMembers_intercalate (m :: ms) (List.cons_ne_nil _ _)
      (fun q hq => hr q (List.mem_cons_of_mem _ hq)) n
    have hv := hr (k, t, v) (List.mem_cons_self _ _) n
    simp only [List.map_cons, intercalate_cons_cons, toList_append, toList_memberText, List.length_cons,
      List.length_append, List.cons_append, List.append_assoc] at hn hrest hv ⊢
    have h1 : ",".toList = [','] := rfl
    have h1' : ",".toList.length = 1 := rfl
    simp only [h1, List.singleton_append, readMembers, readStringBody_flatMap, hv _ (by omega), hrest (by omega)]
    rfl

end Lists

/-- An array reads as its elements. -/
theorem reads_array (ts : List (String × JVal)) (hr : ∀ p ∈ ts, Reads p.1.toList p.2) :
    Reads ("[" ++ ",".intercalate (ts.map Prod.fst) ++ "]").toList (.arr (ts.map Prod.snd)) := by
  intro n r hn
  obtain ⟨n, rfl⟩ : ∃ m, n = m + 1 := ⟨n - 1, by simp at hn; omega⟩
  simp only [toList_append, List.length_append] at hn ⊢
  cases ts with
  | nil => rfl
  | cons p ts =>
    obtain ⟨c, t', hc, hc1, -⟩ := (hr p (List.mem_cons_self _ _)).head
    obtain ⟨rest, hI⟩ : ∃ rest, (",".intercalate ((p :: ts).map Prod.fst)).toList = p.1.toList ++ rest :=
      toList_intercalate_cons _ _ _
    have hsplit : ∀ I : List Char, "[".toList ++ I ++ "]".toList ++ r = '[' :: (I ++ ']' :: r) := by simp
    rw [hsplit, readValue, if_neg (by decide), if_pos rfl, hI, hc, if_neg (by simpa using hc1),
      ← hc, ← hI, readElements_intercalate r _ (List.cons_ne_nil _ _) hr n (by simp at hn ⊢; omega)]
    rfl

/-- An object reads as its members. -/
theorem reads_object (ms : List (String × String × JVal)) (hr : ∀ m ∈ ms, Reads m.2.1.toList m.2.2) :
    Reads ("\x7b" ++ ",".intercalate (ms.map memberText) ++ "\x7d").toList (.obj (ms.map fun m => (m.1, m.2.2))) := by
  intro n r hn
  obtain ⟨n, rfl⟩ : ∃ m, n = m + 1 := ⟨n - 1, by simp at hn; omega⟩
  simp only [toList_append, List.length_append] at hn ⊢
  cases ms with
  | nil => rfl
  | cons m ms =>
    obtain ⟨rest, hI⟩ : ∃ rest, (",".intercalate ((m :: ms).map memberText)).toList = (memberText m).toList ++ rest :=
      toList_intercalate_cons _ _ _
    have hsplit : ∀ I : List Char, "\x7b".toList ++ I ++ "\x7d".toList ++ r = '\x7b' :: (I ++ '\x7d' :: r) := by
      simp
    obtain ⟨k, t, v⟩ := m
    rw [hsplit, readValue, if_neg (by decide), if_neg (by decide), if_pos rfl, hI, toList_memberText,
      List.cons_append, if_neg (by simp), ← List.cons_append, ← toList_memberText, ← hI,
      readMembers_intercalate r _ (List.cons_ne_nil _ _) hr n (by simp at hn ⊢; omega)]
    rfl

theorem reads_jsonStrings (l : List String) : Reads (jsonStrings l).toList (.arr (l.map .str)) := by
  have := reads_array (l.map fun s => (jsonString s, JVal.str s)) (by simpa using fun s _ => reads_jsonString s)
  simpa [jsonStrings, Function.comp_def] using this

/-! ## Networks -/

/-- The members `omitempty` keeps: none when the field is empty. -/
def omitEmpty {α : Type} (empty : Prop) [Decidable empty] (m : α) : List α := if empty then [] else [m]

@[simp] theorem map_omitEmpty {α β : Type} (empty : Prop) [Decidable empty] (m : α) (f : α → β) :
    (omitEmpty empty m).map f = omitEmpty empty (f m) := by
  unfold omitEmpty; split_ifs <;> rfl

theorem lookup_omitEmpty (empty : Prop) [Decidable empty] (k k' : String) (v : JVal) :
    (omitEmpty empty (k', v)).lookup k = if ¬empty ∧ k = k' then some v else none := by
  unfold omitEmpty
  by_cases hk : k = k'
  · subst hk; split_ifs <;> simp_all
  · split_ifs <;> simp_all [List.lookup_cons, beq_false_of_ne hk]

/-- A network's members in the order `MultusNetworkConfig.json` writes them: key, value text and value. -/
def networkMembers (n : MultusNetworkConfig) : List (String × String × JVal) :=
  ("name", jsonString n.name, .str n.name) ::
    (omitEmpty (n.ns = "") ("namespace", jsonString n.ns, .str n.ns) ++
      omitEmpty (n.interface = "") ("interface", jsonString n.interface, .str n.interface) ++
      omitEmpty (n.ips = []) ("ips", jsonStrings n.ips, .arr (n.ips.map .str)) ++
      omitEmpty (n.mac = "") ("mac", jsonString n.mac, .str n.mac) ++
      omitEmpty (n.defaultRoute = []) ("default-route", jsonStrings n.defaultRoute, .arr (n.defaultRoute.map .str)))

theorem json_eq_networkMembers (n : MultusNetworkConfig) :
    n.json = "\x7b" ++ ",".intercalate ((networkMembers n).map memberText) ++ "\x7d" := by
  unfold MultusNetworkConfig.json networkMembers omitEmpty
  split_ifs <;> rfl

/-- The JSON value of a network. -/
def networkValue (n : MultusNetworkConfig) : JVal := .obj ((networkMembers n).map fun m => (m.1, m.2.2))

theorem reads_json (n : MultusNetworkConfig) : Reads n.json.toList (networkValue n) := by
  rw [json_eq_networkMembers]
  refine reads_object _ fun m hm => ?_
  simp only [networkMembers, omitEmpty, List.mem_cons, List.mem_append, List.mem_ite_nil_left, List.mem_singleton,
    List.not_mem_nil, or_false, or_assoc] at hm
  rcases hm with rfl | ⟨-, rfl⟩ | ⟨-, rfl⟩ | ⟨-, rfl⟩ | ⟨-, rfl⟩ | ⟨-, rfl⟩
  all_goals first | exact reads_jsonString _ | exact reads_jsonStrings _

/-- A string. -/
def JVal.string? : JVal → Option String
  | .str s => some s
  | _ => none

/-- An array of strings. -/
def JVal.strings? : JVal → Option (List String)
  | .arr l => l.mapM JVal.string?
  | _ => none

/-- A string field from its member, the empty string when there is none. -/
def stringField : Option JVal → Option String
  | none => some ""
  | some v => v.string?

/-- A list field from its member, the empty list when there is none. -/
def stringsField : Option JVal → Option (List String)
  | none => some []
  | some v => v.strings?

/-- A network from its object, each field from the member of its JSON name. -/
def decodeNetwork : JVal → Option MultusNetworkConfig
  | .obj m => do
    return { name := ← stringField (m.lookup "name"), ns := ← stringField (m.lookup "namespace"),
             interface := ← stringField (m.lookup "interface"), ips := ← stringsField (m.lookup "ips"),
             mac := ← stringField (m.lookup "mac"), defaultRoute := ← stringsField (m.lookup "default-route") }
  | _ => none

/-- The networks of an annotation: none for the empty annotation, else the objects of its array. -/
def readMultusNetworks (s : String) : Option (List MultusNetworkConfig) :=
  if s = "" then some []
  else
    match readValue s.length s.toList with
    | some (.arr l, []) => l.mapM decodeNetwork
    | _ => none

theorem mapM_map_of_inverse {α β : Type} {f : β → Option α} {g : α → β} :
    ∀ {l : List α}, (∀ x ∈ l, f (g x) = some x) → (l.map g).mapM f = some l
  | [], _ => rfl
  | x :: l, h => by
    simp only [List.map_cons, List.mapM_cons, h x (List.mem_cons_self _ _),
      mapM_map_of_inverse fun y hy => h y (List.mem_cons_of_mem _ hy)]
    rfl

@[simp] theorem stringField_str (s : String) : stringField (some (.str s)) = some s := rfl

/-- An omitted string field decodes to the empty string it was. -/
theorem stringField_omitEmpty (s : String) : stringField (if s = "" then none else some (.str s)) = some s := by
  split_ifs with h <;> simp [stringField, JVal.string?, h]

/-- An omitted list field decodes to the empty list it was. -/
theorem stringsField_omitEmpty (l : List String) :
    stringsField (if l = [] then none else some (.arr (l.map .str))) = some l := by
  split_ifs with h
  · simp [stringsField, h]
  · exact mapM_map_of_inverse fun _ _ => rfl

theorem decodeNetwork_networkValue (n : MultusNetworkConfig) : decodeNetwork (networkValue n) = some n := by
  obtain ⟨name, ns, interface, ips, mac, dr⟩ := n
  simp [networkValue, networkMembers, decodeNetwork, List.lookup_cons, List.lookup_append, lookup_omitEmpty,
    stringField_omitEmpty, stringsField_omitEmpty]

/-- The annotation of a list of networks reads back as the list. -/
theorem readMultusNetworks_of_ok {networks : List MultusNetworkConfig} {s : String}
    (h : createMultusAnnotation networks = .ok s) : readMultusNetworks s = some networks := by
  unfold createMultusAnnotation at h
  split_ifs at h with hnil
  · cases h
    rw [hnil]
    rfl
  · cases h
    have hr := reads_array (networks.map fun n => (n.json, networkValue n)) (by simpa using fun n _ => reads_json n)
    simp only [List.map_map, Function.comp_def] at hr
    have hne : "[" ++ ",".intercalate (networks.map MultusNetworkConfig.json) ++ "]" ≠ "" := fun he => by
      have h1 : "[".length = 1 := rfl
      have := congrArg String.length he
      rw [String.length_append, String.length_append, h1] at this
      exact absurd this (by simp)
    rw [readMultusNetworks, if_neg hne, ← List.append_nil (String.toList _), hr _ [] (String.length_data _).le]
    exact mapM_map_of_inverse fun n _ => decodeNetwork_networkValue n

/-- **The annotation round trip.** `CreateMultusAnnotation` never fails, and every list of networks reads back from
its annotation. -/
theorem createMultusAnnotation_round_trip (networks : List MultusNetworkConfig) :
    ∃ s, createMultusAnnotation networks = .ok s ∧ readMultusNetworks s = some networks := by
  cases h : createMultusAnnotation networks with
  | error e => exact absurd h (by unfold createMultusAnnotation; split_ifs <;> simp)
  | ok s => exact ⟨s, rfl, readMultusNetworks_of_ok h⟩

example : readMultusNetworks "[\x7b\"name\":\"a\\u003cb\",\"ips\":[\"10.0.0.1\"]\x7d]" =
    some [{ name := "a<b", ips := ["10.0.0.1"] }] := by decide

/-! ## The annotations of a pod -/

/-- **The annotations of a pod agree.** `CreatePerPodPredictableAnnotations` fails exactly as `GetPodPredictableIP`
does; otherwise its Multus annotation reads back as the one network, on the given interface, with the address
`GetPodPredictableIP` computes, which is also its predictable IP annotation, and its pod index annotation is the
index. -/
theorem createPerPodPredictableAnnotations_read (networkName interfaceName : String) (podIndex : Int) (p : NADIpam) :
    (createPerPodPredictableAnnotations networkName interfaceName podIndex p).map
        (fun N => (readMultusNetworks (N.get networksKey), N.lookup predictableIPKey, N.lookup podIndexKey)) =
      (getPodPredictableIP p podIndex).map
        (fun ip => (some [{ name := networkName, interface := interfaceName, ips := [ip] }], some ip,
          some (toString podIndex))) := by
  unfold createPerPodPredictableAnnotations
  cases hip : getPodPredictableIP p podIndex with
  | error e => rfl
  | ok ip =>
    cases hm : createMultusAnnotation [{ name := networkName, interface := interfaceName, ips := [ip] }] with
    | error e => unfold createMultusAnnotation at hm; simp at hm
    | ok multus =>
      simp only [bind, Except.bind, hm, Functor.map, Except.map, pure, Except.pure]
      simp [Kube.StrMap.get, readMultusNetworks_of_ok hm, networksKey, predictableIPKey, podIndexKey,
        AList.lookup_insert_ne, -AList.insert_empty]

end PredictableIP.Designate
