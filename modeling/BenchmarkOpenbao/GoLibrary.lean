import Mathlib.Data.List.Infix
import Mathlib.Data.Nat.Digits
import Mathlib.Data.String.Basic

set_option autoImplicit false

/-!
# The Go library calls the benchmark targets make

`strings`, `strconv` and `math/rand` as far as the targets use them. A Go `string` is a
Lean `String`, a Go `int` an `Int`; `int32(x)` keeps the low 32 bits. A call that panics
ends in `Abort.panic` with the runtime's message, and `log.Fatalf` in `Abort.fatal`.
-/

namespace BenchmarkOpenbao

/-- How a Go computation stops without returning. -/
inductive Abort
  | panic (msg : String)
  | fatal (msg : String)
  deriving DecidableEq, Repr

@[simp] theorem except_pure {α : Type} (a : α) : (pure a : Except Abort α) = .ok a := rfl

@[simp] theorem except_ok_bind {α β : Type} (a : α) (f : α → Except Abort β) :
    (Except.ok a >>= f) = f a := rfl

@[simp] theorem except_error_bind {α β : Type} (e : Abort) (f : α → Except Abort β) :
    (Except.error e >>= f) = .error e := rfl

/-! ## Integers -/

/-- `int32(x)` for a Go `int`: the low 32 bits, read as a signed integer. -/
def goInt32 (x : Int) : Int := (x + 2147483648) % 4294967296 - 2147483648

theorem goInt32_of_range {x : Int} (h1 : -2147483648 ≤ x) (h2 : x < 2147483648) :
    goInt32 x = x := by
  unfold goInt32; omega

theorem goInt32_le {x : Int} (hx : 0 ≤ x) (h : 0 < goInt32 x) : goInt32 x ≤ x := by
  unfold goInt32 at *; omega

/-- `rand.Int31n(n)`: a panic unless `0 < n`, otherwise a value of `[0, n)`. `draw` is the
sample the generator accepted; any value of `[0, n)` is reached by some draw. -/
def randInt31n (n : Int) (draw : Nat) : Except Abort Int :=
  if n ≤ 0 then .error (.panic "invalid argument to Int31n") else .ok (draw % n)

theorem randInt31n_of_nonpos {n : Int} (h : n ≤ 0) (draw : Nat) :
    randInt31n n draw = .error (.panic "invalid argument to Int31n") := if_pos h

theorem randInt31n_of_pos {n : Int} (h : 0 < n) (draw : Nat) :
    randInt31n n draw = .ok (draw % n) := if_neg (by omega)

theorem randInt31n_range {n : Int} {draw : Nat} {v : Int} (h : randInt31n n draw = .ok v) :
    0 ≤ v ∧ v < n := by
  unfold randInt31n at h
  split at h
  · cases h
  · cases h
    exact ⟨Int.emod_nonneg _ (by omega), Int.emod_lt_of_pos _ (by omega)⟩

/-! ## `strings` -/

/-- `strings.Repeat(s, count)`. Go also panics when the length of the result overflows an `int`
or passes what it can allocate (`makeslice: len out of range`), and fails when memory runs out;
none of these is modelled, so what is proved of a call holds where its allocation succeeds. -/
def stringsRepeat (s : String) (count : Int) : Except Abort String :=
  if count < 0 then .error (.panic "strings: negative Repeat count")
  else .ok ⟨(List.replicate count.toNat s.data).flatten⟩

theorem stringsRepeat_of_neg (s : String) {count : Int} (h : count < 0) :
    stringsRepeat s count = .error (.panic "strings: negative Repeat count") := if_pos h

theorem stringsRepeat_char (c : Char) (n : Nat) :
    stringsRepeat ⟨[c]⟩ n = .ok ⟨List.replicate n c⟩ := by
  have h : (List.replicate n [c]).flatten = List.replicate n c := by
    induction n with
    | zero => rfl
    | succ n ih => rw [List.replicate_succ, List.flatten_cons, ih]; rfl
  simp only [stringsRepeat, if_neg (Int.not_lt.mpr (Int.ofNat_nonneg n)), Int.toNat_ofNat, h]

def stringsHasPrefix (s pre : String) : Bool := pre.data.isPrefixOf s.data

def stringsTrimPrefix (s pre : String) : String :=
  if stringsHasPrefix s pre then ⟨s.data.drop pre.length⟩ else s

/-- The first occurrence of `old` in a character list replaced by `new`. -/
def replaceFirst (old new : List Char) (s : List Char) : List Char :=
  if old <+: s then new ++ s.drop old.length
  else match s with
    | [] => []
    | c :: t => c :: replaceFirst old new t

/-- `strings.Replace(s, old, new, 1)`, the one count the targets pass. -/
def stringsReplace (s old new : String) : String := ⟨replaceFirst old.data new.data s.data⟩

def stringsJoin : List String → String → String
  | [], _ => ""
  | [e], _ => e
  | e :: es, sep => e ++ sep ++ stringsJoin es sep

def stringsContains (s substr : String) : Bool := decide (substr.data <:+: s.data)

@[simp] theorem stringsHasPrefix_append (pre rest : String) :
    stringsHasPrefix (pre ++ rest) pre = true := by
  simp [stringsHasPrefix]

theorem stringsHasPrefix_iff (s pre : String) :
    stringsHasPrefix s pre = true ↔ pre.data <+: s.data := by
  simp [stringsHasPrefix]

@[simp] theorem stringsTrimPrefix_append (pre rest : String) :
    stringsTrimPrefix (pre ++ rest) pre = rest := by
  rw [stringsTrimPrefix, if_pos (stringsHasPrefix_append pre rest)]
  exact String.ext (List.drop_left pre.data rest.data)

theorem replaceFirst_prefix (old new rest : List Char) :
    replaceFirst old new (old ++ rest) = new ++ rest := by
  unfold replaceFirst
  rw [if_pos (List.prefix_append old rest), List.drop_left]

@[simp] theorem stringsReplace_append (old new rest : String) :
    stringsReplace (old ++ rest) old new = new ++ rest := by
  simp [stringsReplace, replaceFirst_prefix]; rfl

/-! ## `strconv` -/

/-- `strconv.Itoa(i)`, which is also what `fmt.Sprintf("%v", i)` prints for an `int`. -/
def strconvItoa (i : Int) : String := toString i

/-- The decimal digits of a positive natural, most significant first. -/
def decimal (n : Nat) : List Char := (Nat.digits 10 n).reverse.map Nat.digitChar

@[simp] theorem decimal_zero : decimal 0 = [] := by simp [decimal]

theorem decimal_of_pos {n : Nat} (hn : 0 < n) :
    decimal n = decimal (n / 10) ++ [Nat.digitChar (n % 10)] := by
  simp [decimal, Nat.digits_def' (by norm_num : 1 < 10) hn]

theorem toDigitsCore_eq (f n : Nat) (ds : List Char) (hn : 0 < n) (hf : n < f) :
    Nat.toDigitsCore 10 f n ds = decimal n ++ ds := by
  induction f generalizing n ds with
  | zero => omega
  | succ f ih =>
    rw [Nat.toDigitsCore]
    by_cases h : n / 10 = 0
    · simp [h, decimal_of_pos hn]
    · simp only [h, if_false, ih (n / 10) _ (by omega) (by omega), decimal_of_pos hn,
        List.append_assoc]; rfl

theorem strconvItoa_data (n : Nat) :
    (strconvItoa n).data = if n = 0 then ['0'] else decimal n := by
  change (Nat.toDigits 10 n) = _
  split
  · subst n; rfl
  · exact (toDigitsCore_eq _ _ _ (by omega) (by omega)).trans (List.append_nil _)

/-- The value of a string of decimal digits, as `strconv.Atoi` and the JSON decoder read it. -/
def decimalValue (ds : List Char) : Nat := ds.foldl (fun acc d => 10 * acc + (d.toNat - 48)) 0

theorem digitChar_toNat : ∀ d, d < 10 → (Nat.digitChar d).toNat - 48 = d := by decide

theorem digitChar_isDigit : ∀ d, d < 10 → (Nat.digitChar d).isDigit = true := by decide

theorem decimalValue_append_digit (ds : List Char) {d : Nat} (hd : d < 10) :
    decimalValue (ds ++ [Nat.digitChar d]) = 10 * decimalValue ds + d := by
  simp [decimalValue, List.foldl_append, digitChar_toNat d hd]

theorem decimalValue_decimal (n : Nat) : decimalValue (decimal n) = n := by
  induction n using Nat.strong_induction_on with
  | _ n ih =>
    rcases Nat.eq_zero_or_pos n with rfl | hn
    · rw [decimal_zero]; rfl
    · rw [decimal_of_pos hn, decimalValue_append_digit _ (Nat.mod_lt _ (by norm_num)),
        ih _ (Nat.div_lt_self hn (by norm_num))]
      omega

theorem decimalValue_strconvItoa (n : Nat) : decimalValue (strconvItoa n).data = n := by
  rw [strconvItoa_data]
  split
  · subst n; rfl
  · exact decimalValue_decimal n

theorem strconvItoa_inj {m n : Nat} (h : strconvItoa m = strconvItoa n) : m = n := by
  rw [← decimalValue_strconvItoa m, ← decimalValue_strconvItoa n, h]

theorem strconvItoa_isDigit (n : Nat) : ∀ c ∈ (strconvItoa n).data, c.isDigit = true := by
  rw [strconvItoa_data]
  split
  · simp
  · simp only [decimal, List.mem_map, List.mem_reverse]
    rintro c ⟨d, hd, rfl⟩
    exact digitChar_isDigit d (Nat.digits_lt_base (by norm_num) hd)

theorem decimal_ne_nil {n : Nat} (hn : 0 < n) : decimal n ≠ [] := by
  rw [decimal_of_pos hn]; simp

theorem digitChar_ne_zero : ∀ d < 10, 0 < d → Nat.digitChar d ≠ '0' := by decide

theorem decimal_head_ne_zero : ∀ n, 0 < n → (decimal n).head? ≠ some '0' := by
  intro n
  induction n using Nat.strong_induction_on with
  | _ n ih =>
    intro hn
    rw [decimal_of_pos hn]
    by_cases h : n / 10 = 0
    · rw [h, decimal_zero]
      simpa using digitChar_ne_zero (n % 10) (Nat.mod_lt _ (by norm_num)) (by omega)
    · obtain ⟨c, cs, hc⟩ := List.exists_cons_of_ne_nil (decimal_ne_nil (show 0 < n / 10 by omega))
      have := ih (n / 10) (by omega) (by omega)
      rw [hc] at this ⊢
      simpa using this

theorem strconvItoa_head (n : Nat) (h : (strconvItoa n).data.head? = some '0') : n = 0 := by
  rw [strconvItoa_data] at h
  split at h
  · assumption
  · exact absurd h (decimal_head_ne_zero n (by omega))

theorem strconvItoa_ne_nil (n : Nat) : (strconvItoa n).data ≠ [] := by
  rw [strconvItoa_data]; split
  · simp
  · exact decimal_ne_nil (by omega)

theorem strconvItoa_negSucc (m : Nat) :
    (strconvItoa (Int.negSucc m)).data = '-' :: (strconvItoa ((m + 1 : Nat) : Int)).data := rfl

theorem strconvItoa_length_le {n L : Nat} (hL : 0 < L) (hn : n < 10 ^ L) :
    (strconvItoa n).data.length ≤ L := by
  rw [strconvItoa_data]
  split
  · simpa using hL
  · rename_i h0
    have := Nat.log_lt_of_lt_pow h0 hn
    simp only [decimal, List.length_map, List.length_reverse,
      Nat.digits_len 10 n (by norm_num) h0]
    omega

theorem strconvItoa_ten_mul {m : Nat} (hm : 0 < m) :
    (strconvItoa (10 * m : Nat)).data = (strconvItoa m).data ++ ['0'] := by
  rw [strconvItoa_data, strconvItoa_data, if_neg (by omega), if_neg (by omega),
    decimal_of_pos (by omega), Nat.mul_div_cancel_left _ (by norm_num), Nat.mul_mod_right]
  rfl

theorem strconvItoa_pow_length (k : Nat) : (strconvItoa (10 ^ k : Nat)).data.length = k + 1 := by
  induction k with
  | zero => rfl
  | succ k ih =>
    rw [pow_succ', strconvItoa_ten_mul (Nat.pos_pow_of_pos k (by norm_num)), List.length_append, ih]
    rfl

/-- One character as `strconv.Quote` writes it: the quote and the backslash escaped, the C
escapes, any other ASCII control character as `\xHH`, every other character kept. (Go also
escapes the non-printable runes beyond ASCII.) -/
def quoteChar (c : Char) : List Char :=
  if c = '"' then ['\\', '"']
  else if c = '\\' then ['\\', '\\']
  else if c = '\x07' then ['\\', 'a']
  else if c = '\x08' then ['\\', 'b']
  else if c = '\x0c' then ['\\', 'f']
  else if c = '\n' then ['\\', 'n']
  else if c = '\r' then ['\\', 'r']
  else if c = '\t' then ['\\', 't']
  else if c = '\x0b' then ['\\', 'v']
  else if c.toNat < 32 ∨ c.toNat = 127 then
    ['\\', 'x', Nat.digitChar (c.toNat / 16), Nat.digitChar (c.toNat % 16)]
  else [c]

/-- `strconv.Quote(s)`, which `fmt`'s `%q` prints for a string. -/
def strconvQuote (s : String) : String := ⟨'"' :: s.data.flatMap quoteChar ++ ['"']⟩

/-- `s[0:hi]` on a string of one-byte characters, as every string the targets slice is. -/
def goSliceTo (s : String) (hi : Int) : Except Abort String :=
  if 0 ≤ hi ∧ hi ≤ s.length then .ok ⟨s.data.take hi.toNat⟩
  else .error (.panic ("runtime error: slice bounds out of range [:" ++ strconvItoa hi ++
    "] with length " ++ strconvItoa s.length))

theorem goSliceTo_of_le {s : String} {hi : Nat} (h : hi ≤ s.length) :
    goSliceTo s hi = .ok ⟨s.data.take hi⟩ := by
  simp [goSliceTo, h]

/-! ## `path` -/

/-- `strings.Split(s, "/")`. -/
def splitSlash : List Char → List (List Char)
  | [] => [[]]
  | c :: cs =>
    if c = '/' then [] :: splitSlash cs
    else match splitSlash cs with
      | seg :: segs => (c :: seg) :: segs
      | [] => [[c]]

/-- One element of `path.Clean`'s scan; `out` holds the kept elements, last first. Empty and
`.` elements vanish, `..` removes the element before it, or stays at the front of an
unrooted path. -/
def cleanStep (rooted : Bool) (out : List (List Char)) (e : List Char) : List (List Char) :=
  if e = [] ∨ e = ['.'] then out
  else if e = ['.', '.'] then
    match out with
    | x :: rest => if x = ['.', '.'] then (if rooted then out else e :: out) else rest
    | [] => if rooted then [] else [e]
  else e :: out

def joinSlash : List (List Char) → List Char
  | [] => []
  | [e] => e
  | e :: es => e ++ '/' :: joinSlash es

def pathClean (p : String) : String :=
  let rooted := p.data.head? = some '/'
  let out := joinSlash ((splitSlash p.data).foldl (cleanStep rooted) []).reverse
  if rooted then ⟨'/' :: out⟩ else if out = [] then "." else ⟨out⟩

/-- `path.Join(elem...)`: the non-empty elements joined by `/`, then cleaned. -/
def pathJoin (elems : List String) : String :=
  match elems.filter (· ≠ "") with
  | [] => ""
  | es => pathClean (stringsJoin es "/")

theorem splitSlash_ne_nil (a : List Char) : splitSlash a ≠ [] := by
  cases a with
  | nil => simp [splitSlash]
  | cons c a =>
    unfold splitSlash
    split_ifs
    · simp
    · split <;> simp

theorem splitSlash_append_slash (a b : List Char) :
    splitSlash (a ++ '/' :: b) = splitSlash a ++ splitSlash b := by
  induction a with
  | nil => simp [splitSlash]
  | cons c a ih =>
    by_cases hc : c = '/'
    · simp [splitSlash, hc, ih]
    · obtain ⟨seg, segs, h⟩ := List.exists_cons_of_ne_nil (splitSlash_ne_nil a)
      simp [splitSlash, hc, ih, h]

theorem pathClean_double_slash (a b : List Char) :
    pathClean ⟨a ++ '/' :: '/' :: b⟩ = pathClean ⟨a ++ '/' :: b⟩ := by
  have hs : splitSlash (a ++ '/' :: '/' :: b) = splitSlash a ++ [] :: splitSlash b := by
    rw [splitSlash_append_slash, splitSlash]; rfl
  have hr : (a ++ '/' :: '/' :: b).head? = (a ++ '/' :: b).head? := by cases a <;> rfl
  simp only [pathClean, hs, hr, splitSlash_append_slash, List.foldl_append, List.foldl_cons]
  simp [cleanStep]

theorem pathJoin_pair (a : String) {r : String} (hr : r ≠ "") :
    pathJoin [a, r] = pathClean (if a = "" then r else a ++ "/" ++ r) := by
  by_cases ha : a = "" <;> simp [pathJoin, ha, hr, stringsJoin]

/-! ## Elements `path.Clean` keeps -/

/-- An element `path.Clean` keeps as it is: not empty, not `.` or `..`, and with no `/`. -/
def PlainSegment (s : String) : Prop :=
  s.data ≠ [] ∧ s.data ≠ ['.'] ∧ s.data ≠ ['.', '.'] ∧ '/' ∉ s.data

instance : DecidablePred PlainSegment := fun s =>
  inferInstanceAs (Decidable (s.data ≠ [] ∧ s.data ≠ ['.'] ∧ s.data ≠ ['.', '.'] ∧ '/' ∉ s.data))

theorem splitSlash_of_no_slash {a : List Char} (h : '/' ∉ a) : splitSlash a = [a] := by
  induction a with
  | nil => rfl
  | cons c a ih =>
    have hc : c ≠ '/' := fun hc => h (hc ▸ List.mem_cons_self _ _)
    simp [splitSlash, hc, ih (fun h' => h (List.mem_cons_of_mem _ h'))]

theorem not_slash_of_mem_splitSlash {a seg : List Char} (h : seg ∈ splitSlash a) : '/' ∉ seg := by
  induction a generalizing seg with
  | nil => simp [splitSlash] at h; simp [h]
  | cons c a ih =>
    by_cases hc : c = '/'
    · simp only [splitSlash, hc, if_true, List.mem_cons] at h
      rcases h with rfl | h
      · simp
      · exact ih h
    · obtain ⟨s, ss, hs⟩ := List.exists_cons_of_ne_nil (splitSlash_ne_nil a)
      simp only [splitSlash, hc, if_false, hs, List.mem_cons] at h
      rcases h with rfl | h
      · have := ih (hs ▸ List.mem_cons_self s ss)
        simp [Ne.symm hc, this]
      · exact ih (hs ▸ List.mem_cons_of_mem _ h)

theorem splitSlash_joinSlash {L : List (List Char)} (hL : L ≠ []) (h : ∀ e ∈ L, '/' ∉ e) :
    splitSlash (joinSlash L) = L := by
  induction L with
  | nil => exact absurd rfl hL
  | cons e es ih =>
    cases es with
    | nil => exact splitSlash_of_no_slash (h e (List.mem_cons_self _ _))
    | cons e' es =>
      show splitSlash (e ++ '/' :: joinSlash (e' :: es)) = _
      rw [splitSlash_append_slash,
        splitSlash_of_no_slash (h e (List.mem_cons_self _ _)),
        ih (List.cons_ne_nil _ _) fun x hx => h x (List.mem_cons_of_mem _ hx)]
      rfl

theorem cleanStep_plain (rooted : Bool) (out : List (List Char)) {s : String} (h : PlainSegment s) :
    cleanStep rooted out s.data = s.data :: out := by
  obtain ⟨h0, h1, h2, -⟩ := h
  simp [cleanStep, h0, h1, h2]

theorem foldl_cleanStep_plain (rooted : Bool) (out : List (List Char)) {segs : List String}
    (h : ∀ e ∈ segs, PlainSegment e) :
    (segs.map String.data).foldl (cleanStep rooted) out = (segs.map String.data).reverse ++ out := by
  induction segs generalizing out with
  | nil => rfl
  | cons s segs ih =>
    simp only [List.map_cons, List.foldl_cons, cleanStep_plain rooted out (h s (List.mem_cons_self _ _)),
      ih _ fun e he => h e (List.mem_cons_of_mem _ he), List.reverse_cons, List.append_assoc,
      List.singleton_append]

theorem cleanStep_subset (rooted : Bool) (out : List (List Char)) (x : List Char) :
    cleanStep rooted out x ⊆ x :: out := by
  intro a ha
  unfold cleanStep at ha
  by_cases h1 : x = [] ∨ x = ['.']
  · rw [if_pos h1] at ha; exact List.mem_cons_of_mem _ ha
  rw [if_neg h1] at ha
  by_cases h2 : x = ['.', '.']
  · rw [if_pos h2] at ha
    rcases out with _ | ⟨y, rest⟩
    · cases rooted <;> simp_all
    · by_cases h3 : y = ['.', '.'] <;> cases rooted <;> simp_all
  · rwa [if_neg h2] at ha

theorem not_slash_of_mem_foldl_cleanStep (rooted : Bool) {xs out : List (List Char)}
    (hx : ∀ e ∈ xs, '/' ∉ e) (ho : ∀ e ∈ out, '/' ∉ e) :
    ∀ e ∈ xs.foldl (cleanStep rooted) out, '/' ∉ e := by
  induction xs generalizing out with
  | nil => exact ho
  | cons x xs ih =>
    refine ih (fun e he => hx e (List.mem_cons_of_mem _ he)) fun e he => ?_
    rcases List.mem_cons.mp (cleanStep_subset rooted out x he) with rfl | he
    · exact hx e (List.mem_cons_self _ _)
    · exact ho e he

theorem joinSlash_eq_nil {L : List (List Char)} (h : joinSlash L = []) : ∀ e ∈ L, e = [] := by
  induction L with
  | nil => simp
  | cons e es ih =>
    cases es with
    | nil => simpa [joinSlash] using h
    | cons e' es => simp [joinSlash] at h


/-- After any prefix, a `/` and elements `path.Clean` keeps: splitting the cleaned path at `/`
gives what the prefix alone leaves, then those elements. -/
theorem splitSlash_pathClean_plain (pre : List Char) :
    ∃ P, ∀ segs : List String, segs ≠ [] → (∀ e ∈ segs, PlainSegment e) →
      splitSlash (pathClean ⟨pre ++ '/' :: joinSlash (segs.map String.data)⟩).data =
        P ++ segs.map String.data := by
  let rooted := (pre ++ ['/']).head? = some '/'
  let Q := (splitSlash pre).foldl (cleanStep rooted) []
  have hQ : ∀ e ∈ Q.reverse, '/' ∉ e := fun e he =>
    not_slash_of_mem_foldl_cleanStep rooted (fun _ => not_slash_of_mem_splitSlash)
      (by simp) e (List.mem_reverse.mp he)
  refine ⟨(if rooted then [[]] else []) ++ Q.reverse, fun segs hs hp => ?_⟩
  have hne : segs.map String.data ≠ [] := by simpa using hs
  have hslash : ∀ e ∈ segs.map String.data, '/' ∉ e := by
    simp only [List.mem_map]; rintro _ ⟨s, hs, rfl⟩; exact (hp s hs).2.2.2
  have hall : ∀ e ∈ Q.reverse ++ segs.map String.data, '/' ∉ e := fun e he =>
    (List.mem_append.mp he).elim (hQ e) (hslash e)
  have hr : (pre ++ '/' :: joinSlash (segs.map String.data)).head? = some '/' ↔ rooted := by
    cases pre <;> simp [rooted]
  have hout : joinSlash (Q.reverse ++ segs.map String.data) ≠ [] := fun h0 => by
    obtain ⟨s, hs'⟩ := List.exists_mem_of_ne_nil segs hs
    exact (hp s hs').1 (joinSlash_eq_nil h0 _ (List.mem_append_right _ (List.mem_map_of_mem _ hs')))
  have hsplit : (splitSlash (pre ++ '/' :: joinSlash (segs.map String.data))).foldl
      (cleanStep rooted) [] = (segs.map String.data).reverse ++ Q := by
    rw [splitSlash_append_slash, splitSlash_joinSlash hne hslash, List.foldl_append,
      foldl_cleanStep_plain rooted _ hp]
  have hjoin := splitSlash_joinSlash (List.append_ne_nil_of_right_ne_nil _ hne) hall
  simp only [pathClean, hr, hsplit, List.reverse_append, List.reverse_reverse]
  by_cases hro : rooted
  · rw [if_pos hro, if_pos hro]
    simp [splitSlash, hjoin]
  · rw [if_neg hro, if_neg hro, if_neg hout]
    simp [hjoin]

theorem stringsJoin_slash (segs : List String) :
    stringsJoin segs "/" = ⟨joinSlash (segs.map String.data)⟩ := by
  induction segs with
  | nil => rfl
  | cons e es ih =>
    cases es with
    | nil => rfl
    | cons e' es =>
      show e ++ "/" ++ stringsJoin (e' :: es) "/" = _
      rw [ih]
      exact String.ext (by simp [joinSlash])

theorem pathJoin_plain {segs : List String} (hs : segs ≠ []) (hp : ∀ e ∈ segs, PlainSegment e) :
    pathJoin segs = ⟨joinSlash (segs.map String.data)⟩ := by
  have hf : segs.filter (· ≠ "") = segs :=
    List.filter_eq_self.mpr fun e he => by simpa [String.ext_iff] using (hp e he).1
  have hne : segs.map String.data ≠ [] := by simpa using hs
  have hslash : ∀ e ∈ segs.map String.data, '/' ∉ e := by
    simp only [List.mem_map]; rintro _ ⟨s, hs, rfl⟩; exact (hp s hs).2.2.2
  obtain ⟨s, ss, rfl⟩ := List.exists_cons_of_ne_nil hs
  have hhead : (joinSlash ((s :: ss).map String.data)).head? ≠ some '/' := by
    obtain ⟨h0, -, -, h3⟩ := hp s (List.mem_cons_self _ _)
    obtain ⟨c, cs, hc⟩ := List.exists_cons_of_ne_nil h0
    have : c ≠ '/' := fun h => h3 (by rw [hc, h]; exact List.mem_cons_self _ _)
    cases ss <;> simp [joinSlash, hc, this]
  have hout : joinSlash ((s :: ss).map String.data) ≠ [] := fun h0 =>
    (hp s (List.mem_cons_self _ _)).1 (joinSlash_eq_nil h0 _ (List.mem_cons_self _ _))
  rw [pathJoin, hf]
  simp only [pathClean, stringsJoin_slash, splitSlash_joinSlash hne hslash, hhead,
    foldl_cleanStep_plain _ _ hp, List.append_nil, List.reverse_reverse, if_false, hout]

theorem plainSegment_append_itoa {w : String} (h0 : w.data ≠ []) (hw : w.data.head? ≠ some '.')
    (hs : '/' ∉ w.data) (n : Nat) : PlainSegment (w ++ strconvItoa n) := by
  obtain ⟨c, cs, hc⟩ := List.exists_cons_of_ne_nil h0
  have hd : '/' ∉ (strconvItoa n).data := fun h => by
    simpa using strconvItoa_isDigit n '/' h
  simp only [hc, List.head?_cons, ne_eq, Option.some.injEq] at hw
  refine ⟨by simp [hc], by simp [hc, hw], by simp [hc, hw], ?_⟩
  simp only [String.data_append, List.mem_append, not_or]
  exact ⟨hs, hd⟩

end BenchmarkOpenbao
