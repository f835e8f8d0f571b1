import BenchmarkOpenbao.GoLibrary

set_option autoImplicit false

/-!
# JSON: Go's `json.Marshal` and a decoder

The ACL policy body is built with `json.Marshal`; the mount, namespace and secret bodies are
concatenated by hand. Both are read back with `decode`, an RFC 8259 reader. It keeps numbers as
exact integers, reads any depth, and keeps every member of an object; `json.Unmarshal` into an
`interface{}` makes a `float64`, stops at a depth of 10000, and keeps the last member of a
repeated name. `encodeChar` is `encodeState.string` with HTML escaping on, as `json.Marshal`
runs it.
-/

namespace BenchmarkOpenbao

/-- A JSON value, with integer numbers. -/
inductive Json
  | null
  | bool (b : Bool)
  | num (n : Int)
  | str (s : String)
  | arr (xs : List Json)
  | obj (kvs : List (String × Json))
  deriving Repr, Inhabited

namespace Json

/-! ## Encoding -/

/-- One character of a string as `json.Marshal` writes it. -/
def encodeChar (c : Char) : List Char :=
  if c = '"' then ['\\', '"']
  else if c = '\\' then ['\\', '\\']
  else if c = '\x08' then ['\\', 'b']
  else if c = '\x0c' then ['\\', 'f']
  else if c = '\n' then ['\\', 'n']
  else if c = '\r' then ['\\', 'r']
  else if c = '\t' then ['\\', 't']
  else if c.toNat < 32 ∨ c = '<' ∨ c = '>' ∨ c = '&' then
    ['\\', 'u', '0', '0', Nat.digitChar (c.toNat / 16), Nat.digitChar (c.toNat % 16)]
  else if c = '\u2028' ∨ c = '\u2029' then ['\\', 'u', '2', '0', '2', Nat.digitChar (c.toNat % 16)]
  else [c]

def encodeChars : List Char → List Char
  | [] => []
  | c :: cs => encodeChar c ++ encodeChars cs

mutual
/-- `json.Marshal`. Members are written in the order given: Go sorts a map's keys, and every
map the targets marshal has a single key. -/
def marshal : Json → List Char
  | .null => ['n', 'u', 'l', 'l']
  | .bool true => ['t', 'r', 'u', 'e']
  | .bool false => ['f', 'a', 'l', 's', 'e']
  | .num n => (strconvItoa n).data
  | .str s => '"' :: encodeChars s.data ++ ['"']
  | .arr [] => ['[', ']']
  | .arr (x :: xs) => '[' :: marshal x ++ marshalElems xs
  | .obj [] => ['{', '}']
  | .obj ((k, v) :: kvs) => '{' :: '"' :: encodeChars k.data ++ '"' :: ':' :: marshal v ++
      marshalMembers kvs
def marshalElems : List Json → List Char
  | [] => [']']
  | x :: xs => ',' :: marshal x ++ marshalElems xs
def marshalMembers : List (String × Json) → List Char
  | [] => ['}']
  | (k, v) :: kvs => ',' :: '"' :: encodeChars k.data ++ '"' :: ':' :: marshal v ++
      marshalMembers kvs
end

/-! ## Decoding -/

def isWs (c : Char) : Bool := c = ' ' || c = '\t' || c = '\n' || c = '\r'

def skipWs : List Char → List Char
  | [] => []
  | c :: cs => if isWs c then skipWs cs else c :: cs

def hexVal (c : Char) : Option Nat :=
  if '0' ≤ c ∧ c ≤ '9' then some (c.toNat - 48)
  else if 'a' ≤ c ∧ c ≤ 'f' then some (c.toNat - 87)
  else if 'A' ≤ c ∧ c ≤ 'F' then some (c.toNat - 55)
  else none

/-- The code unit of a `\uXXXX` escape. -/
def hex4 (a b c d : Char) : Option Nat := do
  pure (4096 * (← hexVal a) + 256 * (← hexVal b) + 16 * (← hexVal c) + (← hexVal d))

def isSurrogate (n : Nat) : Bool := 0xD800 ≤ n && n < 0xE000

def consUnit (u : Nat) : Option (List Nat × List Char) → Option (List Nat × List Char) :=
  Option.map fun p => (u :: p.1, p.2)

/-- The code unit of a one-letter escape `\\e`. -/
def escapeUnit (e : Char) : Option Nat :=
  if e = '"' then some 34 else if e = '\\' then some 92 else if e = '/' then some 47
  else if e = 'b' then some 8 else if e = 'f' then some 12 else if e = 'n' then some 10
  else if e = 'r' then some 13 else if e = 't' then some 9 else none

/-- The body of a string literal after its opening quote, as code units (a character as
written, or the code of an escape), and the text after the closing quote. -/
def parseUnits : List Char → Option (List Nat × List Char)
  | [] => none
  | '\\' :: 'u' :: a :: b :: c :: d :: r =>
    match hex4 a b c d with
    | some n => consUnit n (parseUnits r)
    | none => none
  | '\\' :: e :: r =>
    match escapeUnit e with
    | some u => consUnit u (parseUnits r)
    | none => none
  | c :: r =>
    if c = '"' then some ([], r)
    else if c = '\\' ∨ c.toNat < 32 then none
    else consUnit c.toNat (parseUnits r)

/-- Code units to characters: a high surrogate escape followed by a low one is one
character, any other surrogate reads as U+FFFD, as Go's `unquote` does. -/
def combineSurrogates : List Nat → List Char
  | [] => []
  | [u] => [if isSurrogate u then '\uFFFD' else Char.ofNat u]
  | hi :: lo :: us =>
    if 0xD800 ≤ hi ∧ hi < 0xDC00 ∧ 0xDC00 ≤ lo ∧ lo < 0xE000 then
      Char.ofNat (0x10000 + (hi - 0xD800) * 1024 + (lo - 0xDC00)) :: combineSurrogates us
    else (if isSurrogate hi then '\uFFFD' else Char.ofNat hi) :: combineSurrogates (lo :: us)

def parseChars (cs : List Char) : Option (List Char × List Char) :=
  (parseUnits cs).map fun p => (combineSurrogates p.1, p.2)

def isDigit (c : Char) : Bool := '0' ≤ c && c ≤ '9'

def spanDigits : List Char → List Char × List Char
  | [] => ([], [])
  | c :: cs => if isDigit c then ((spanDigits cs).1.cons c, (spanDigits cs).2) else ([], c :: cs)

/-- An integer literal: a minus sign, then digits with no leading zero. -/
def parseInt (cs : List Char) : Option (Int × List Char) :=
  let neg := cs.head? = some '-'
  let (ds, r) := spanDigits (if neg then cs.tail else cs)
  if ds = [] ∨ (ds.head? = some '0' ∧ 1 < ds.length) then none
  else some (if neg then -(decimalValue ds : Int) else decimalValue ds, r)

mutual
/-- One value after optional whitespace, and the text after it; `n` bounds the nesting. -/
def parseValue : Nat → List Char → Option (Json × List Char)
  | 0, _ => none
  | n + 1, cs =>
    match skipWs cs with
    | [] => none
    | c :: r =>
      if c = '"' then (parseChars r).map fun p => (.str ⟨p.1⟩, p.2)
      else if c = '[' then
        if (skipWs r).head? = some ']' then some (.arr [], (skipWs r).tail)
        else (parseElems n r).map fun p => (.arr p.1, p.2)
      else if c = '{' then
        if (skipWs r).head? = some '}' then some (.obj [], (skipWs r).tail)
        else (parseMembers n r).map fun p => (.obj p.1, p.2)
      else if c :: r.take 3 = ['n', 'u', 'l', 'l'] then some (.null, r.drop 3)
      else if c :: r.take 3 = ['t', 'r', 'u', 'e'] then some (.bool true, r.drop 3)
      else if c :: r.take 4 = ['f', 'a', 'l', 's', 'e'] then some (.bool false, r.drop 4)
      else (parseInt (c :: r)).map fun p => (.num p.1, p.2)
def parseElems : Nat → List Char → Option (List Json × List Char)
  | 0, _ => none
  | n + 1, cs =>
    match parseValue n cs with
    | none => none
    | some (x, r) =>
      match skipWs r with
      | [] => none
      | c :: r =>
        if c = ',' then (parseElems n r).map fun p => (x :: p.1, p.2)
        else if c = ']' then some ([x], r) else none
def parseMembers : Nat → List Char → Option (List (String × Json) × List Char)
  | 0, _ => none
  | n + 1, cs =>
    match skipWs cs with
    | [] => none
    | c :: r =>
      if c ≠ '"' then none else
      match parseChars r with
      | none => none
      | some (k, r) =>
        match skipWs r with
        | [] => none
        | c :: r =>
          if c ≠ ':' then none else
          match parseValue n r with
          | none => none
          | some (v, r) =>
            match skipWs r with
            | [] => none
            | c :: r =>
              if c = ',' then (parseMembers n r).map fun p => ((⟨k⟩, v) :: p.1, p.2)
              else if c = '}' then some ([(⟨k⟩, v)], r) else none
end

/-- The value a whole text holds, whitespace around it. Unlike `json.Unmarshal` it keeps an
object's members in order, a repeated name included, and has no depth limit. -/
def decode (s : String) : Option Json :=
  match parseValue (s.length + 1) s.data with
  | some (v, r) => if skipWs r = [] then some v else none
  | none => none

/-! ## Strings read back -/

theorem hexVal_digitChar : ∀ d, d < 16 → hexVal (Nat.digitChar d) = some d := by decide

theorem parseUnits_quote (r : List Char) : parseUnits ('"' :: r) = some ([], r) := by
  simp [parseUnits]

theorem parseUnits_plain {c : Char} (h1 : c ≠ '"') (h2 : c ≠ '\\') (h3 : 32 ≤ c.toNat)
    (r : List Char) : parseUnits (c :: r) = consUnit c.toNat (parseUnits r) := by
  simp [parseUnits, h1, h2, Nat.not_lt.mpr h3]

theorem parseUnits_escape {e : Char} {u : Nat} (h : escapeUnit e = some u) (r : List Char) :
    parseUnits ('\\' :: e :: r) = consUnit u (parseUnits r) := by
  have hu : e ≠ 'u' := by rintro rfl; simp [escapeUnit] at h
  simp [parseUnits, h, hu]

theorem parseUnits_unicode {a b c d : Char} {n : Nat} (h : hex4 a b c d = some n)
    (r : List Char) :
    parseUnits ('\\' :: 'u' :: a :: b :: c :: d :: r) = consUnit n (parseUnits r) := by
  simp [parseUnits, h]

theorem parseUnits_encodeChar (c : Char) (r : List Char) :
    parseUnits (encodeChar c ++ r) = consUnit c.toNat (parseUnits r) := by
  unfold encodeChar
  by_cases h1 : c = '"'
  · subst h1; exact @parseUnits_escape '"' 34 (by decide) r
  rw [if_neg h1]
  by_cases h2 : c = '\\'
  · subst h2; exact @parseUnits_escape '\\' 92 (by decide) r
  rw [if_neg h2]
  by_cases h3 : c = '\x08'
  · subst h3; exact @parseUnits_escape 'b' 8 (by decide) r
  rw [if_neg h3]
  by_cases h4 : c = '\x0c'
  · subst h4; exact @parseUnits_escape 'f' 12 (by decide) r
  rw [if_neg h4]
  by_cases h5 : c = '\n'
  · subst h5; exact @parseUnits_escape 'n' 10 (by decide) r
  rw [if_neg h5]
  by_cases h6 : c = '\r'
  · subst h6; exact @parseUnits_escape 'r' 13 (by decide) r
  rw [if_neg h6]
  by_cases h7 : c = '\t'
  · subst h7; exact @parseUnits_escape 't' 9 (by decide) r
  rw [if_neg h7]
  by_cases h8 : c.toNat < 32 ∨ c = '<' ∨ c = '>' ∨ c = '&'
  · rw [if_pos h8]
    have hc : c.toNat < 64 := by
      rcases h8 with h | rfl | rfl | rfl
      · omega
      all_goals decide
    apply parseUnits_unicode
    have e0 : hexVal '0' = some 0 := by decide
    simp [hex4, e0, hexVal_digitChar _ (show c.toNat / 16 < 16 by omega),
      hexVal_digitChar _ (show c.toNat % 16 < 16 by omega)]
    omega
  rw [if_neg h8]
  by_cases h9 : c = '\u2028' ∨ c = '\u2029'
  · rw [if_pos h9]
    rcases h9 with rfl | rfl <;> exact parseUnits_unicode (by decide) r
  rw [if_neg h9]
  exact parseUnits_plain h1 h2 (by omega) r

theorem parseUnits_encodeChars (s r : List Char) :
    parseUnits (encodeChars s ++ '"' :: r) = some (s.map Char.toNat, r) := by
  induction s with
  | nil => exact parseUnits_quote r
  | cons c s ih => rw [encodeChars, List.append_assoc, parseUnits_encodeChar, ih]; rfl

theorem toNat_not_surrogate (c : Char) : isSurrogate c.toNat = false := by
  have h := c.valid
  simp only [UInt32.isValidChar, Nat.isValidChar] at h
  simp only [isSurrogate, Char.toNat, Bool.and_eq_false_iff, decide_eq_false_iff_not]
  omega

theorem combineSurrogates_cons {u : Nat} (hu : isSurrogate u = false) (us : List Nat) :
    combineSurrogates (u :: us) = Char.ofNat u :: combineSurrogates us := by
  simp only [isSurrogate, Bool.and_eq_false_iff, decide_eq_false_iff_not] at hu
  cases us with
  | nil => simp [combineSurrogates, isSurrogate]; omega
  | cons lo us =>
    rw [combineSurrogates, if_neg (by omega)]
    simp [isSurrogate]; omega

theorem combineSurrogates_toNat (s : List Char) : combineSurrogates (s.map Char.toNat) = s := by
  induction s with
  | nil => rfl
  | cons c s ih =>
    rw [List.map_cons, combineSurrogates_cons (toNat_not_surrogate c), ih, Char.ofNat_toNat]

theorem parseChars_encodeChars (s r : List Char) :
    parseChars (encodeChars s ++ '"' :: r) = some (s, r) := by
  simp [parseChars, parseUnits_encodeChars, combineSurrogates_toNat]

/-- A character that a string literal may hold as it is. -/
def isPlain (c : Char) : Bool := c ≠ '"' && c ≠ '\\' && 32 ≤ c.toNat

/-- A string written between quotes with no escaping reads back as itself when every
character is plain. -/
theorem parseChars_plain {s : List Char} (hs : s.all isPlain = true) (r : List Char) :
    parseChars (s ++ '"' :: r) = some (s, r) := by
  have hu : parseUnits (s ++ '"' :: r) = some (s.map Char.toNat, r) := by
    induction s with
    | nil => exact parseUnits_quote r
    | cons c s ih =>
      simp only [List.all_cons, Bool.and_eq_true, isPlain, decide_eq_true_eq] at hs
      rw [List.cons_append, parseUnits_plain hs.1.1.1 hs.1.1.2 hs.1.2, ih hs.2]; rfl
  simp [parseChars, hu, combineSurrogates_toNat]

/-! ## Values read back

Each lemma holds for every fuel above the depth of the value it reads, so they compose. -/

theorem parseValue_ws (n : Nat) (cs : List Char) : parseValue (n + 1) (' ' :: cs) = parseValue (n + 1) cs := by
  simp [parseValue, skipWs, isWs]

theorem parseValue_quote {n : Nat} {r s rest : List Char} (hs : parseChars r = some (s, rest)) :
    parseValue (n + 1) ('"' :: r) = some (.str ⟨s⟩, rest) := by
  simp [parseValue, skipWs, isWs, hs]

theorem parseValue_marshal_str (s : String) (r : List Char) (n : Nat) :
    parseValue (n + 1) (marshal (.str s) ++ r) = some (.str s, r) := by
  simp only [marshal, List.cons_append, List.append_assoc, List.singleton_append]
  exact parseValue_quote (parseChars_encodeChars _ _)

theorem parseValue_plain {s : List Char} (hs : s.all isPlain = true) (r : List Char) (n : Nat) :
    parseValue (n + 1) ('"' :: s ++ '"' :: r) = some (.str ⟨s⟩, r) :=
  parseValue_quote (parseChars_plain hs r)

theorem parseValue_single {k r r' rest : List Char} {v : Json} {d : Nat} (hk : k.all isPlain = true)
    (hv : ∀ n, parseValue (n + d) r = some (v, r')) (hc : skipWs r' = '}' :: rest) (n : Nat) :
    parseValue (n + d + 2) ('{' :: '"' :: k ++ '"' :: ':' :: r) = some (.obj [(⟨k⟩, v)], rest) := by
  have hm : parseMembers (n + d + 1) ('"' :: (k ++ '"' :: ':' :: r)) = some ([(⟨k⟩, v)], rest) := by
    simp [parseMembers, skipWs, isWs, parseChars_plain hk, hv, hc]
  simp [parseValue, skipWs, isWs, hm]

theorem decode_of_parseValue {s : String} {v : Json} {d : Nat} {rest : List Char}
    (hv : ∀ n, parseValue (n + d) s.data = some (v, rest)) (hr : skipWs rest = [])
    (hd : d ≤ s.length + 1) : decode s = some v := by
  have h := hv (s.length + 1 - d)
  rw [Nat.sub_add_cancel hd] at h
  simp [decode, h, hr]

/-! ## Every value read back -/

theorem isDigit_eq (c : Char) : isDigit c = c.isDigit := by
  simp [isDigit, Char.isDigit, Char.le_def]

theorem spanDigits_append (ds r : List Char) (hds : ∀ c ∈ ds, isDigit c = true)
    (hr : ∀ c ∈ r.head?, isDigit c = false) : spanDigits (ds ++ r) = (ds, r) := by
  induction ds with
  | nil =>
    cases r with
    | nil => rfl
    | cons c r => simp [spanDigits, hr c rfl]
  | cons d ds ih =>
    simp only [List.mem_cons, forall_eq_or_imp] at hds
    simp [spanDigits, hds.1, ih hds.2]

theorem parseInt_digits {ds r : List Char} (hne : ds ≠ []) (hds : ∀ c ∈ ds, isDigit c = true)
    (h0 : ds.head? = some '0' → ds.length = 1) (hr : ∀ c ∈ r.head?, isDigit c = false) :
    parseInt (ds ++ r) = some ((decimalValue ds : Int), r) ∧
      parseInt ('-' :: ds ++ r) = some (-(decimalValue ds : Int), r) := by
  obtain ⟨d, ds, rfl⟩ := List.exists_cons_of_ne_nil hne
  have hm : d ≠ '-' := by rintro rfl; exact absurd (hds _ (List.mem_cons_self _ _)) (by decide)
  have hs := spanDigits_append _ r hds hr
  have hz : d = '0' → ds = [] := fun h => by simpa using h0 (by rw [h]; rfl)
  simp only [List.cons_append] at hs
  constructor <;> simpa [parseInt, hm, hs] using hz

theorem parseInt_strconvItoa (m : Nat) {r : List Char} (hr : ∀ c ∈ r.head?, isDigit c = false) :
    parseInt ((strconvItoa m).data ++ r) = some ((m : Int), r) ∧
      parseInt ('-' :: (strconvItoa m).data ++ r) = some (-(m : Int), r) := by
  have h := parseInt_digits (strconvItoa_ne_nil m)
    (fun c hc => (isDigit_eq c).trans (strconvItoa_isDigit m c hc))
    (fun h0 => by rw [strconvItoa_head m h0]; rfl) hr
  rwa [decimalValue_strconvItoa] at h

theorem ne_of_isDigit {c : Char} (h : c.isDigit = true) :
    isWs c = false ∧ c ≠ ']' ∧ c ≠ '"' ∧ c ≠ '[' ∧ c ≠ '{' ∧ c ≠ 'n' ∧ c ≠ 't' ∧ c ≠ 'f' := by
  refine ⟨?_, ?_, ?_, ?_, ?_, ?_, ?_, ?_⟩
  · simp only [isWs, Bool.or_eq_false_iff, decide_eq_false_iff_not]
    refine ⟨⟨⟨?_, ?_⟩, ?_⟩, ?_⟩ <;> rintro rfl <;> exact absurd h (by decide)
  all_goals rintro rfl; exact absurd h (by decide)

theorem marshal_head (v : Json) : ∃ c rest, marshal v = c :: rest ∧ isWs c = false ∧ c ≠ ']' := by
  cases v with
  | null => exact ⟨_, _, rfl, rfl, by decide⟩
  | bool b => cases b <;> exact ⟨_, _, rfl, rfl, by decide⟩
  | num k =>
    cases k with
    | ofNat m =>
      obtain ⟨d, ds, hd⟩ := List.exists_cons_of_ne_nil (strconvItoa_ne_nil m)
      have h := ne_of_isDigit (strconvItoa_isDigit m d (by rw [hd]; exact List.mem_cons_self _ _))
      exact ⟨d, ds, hd, h.1, h.2.1⟩
    | negSucc m => exact ⟨'-', _, strconvItoa_negSucc m, rfl, by decide⟩
  | str s => exact ⟨_, _, rfl, rfl, by decide⟩
  | arr xs => cases xs <;> exact ⟨_, _, rfl, rfl, by decide⟩
  | obj kvs =>
    rcases kvs with _ | ⟨⟨k, v⟩, kvs⟩ <;> exact ⟨_, _, rfl, rfl, by decide⟩

theorem parseValue_num (k : Int) {r : List Char} (hr : ∀ c ∈ r.head?, isDigit c = false) (n : Nat) :
    parseValue (n + 1) (marshal (.num k) ++ r) = some (.num k, r) := by
  cases k with
  | ofNat m =>
    obtain ⟨d, ds, hd⟩ := List.exists_cons_of_ne_nil (strconvItoa_ne_nil m)
    obtain ⟨hw, -, hq, hb, hc, hn, ht, hf⟩ :=
      ne_of_isDigit (strconvItoa_isDigit m d (by rw [hd]; exact List.mem_cons_self _ _))
    have hp := (parseInt_strconvItoa m hr).1
    rw [hd, List.cons_append] at hp
    show parseValue (n + 1) ((strconvItoa m).data ++ r) = _
    rw [hd]
    simp [parseValue, skipWs, hw, hq, hb, hc, hn, ht, hf, hp]
  | negSucc m =>
    have hp := (parseInt_strconvItoa (m + 1) hr).2
    simp only [Nat.cast_add, Nat.cast_one, List.cons_append] at hp
    show parseValue (n + 1) ('-' :: (strconvItoa ((m + 1 : Nat) : Int)).data ++ r) = _
    simp [parseValue, skipWs, isWs, hp, Int.negSucc_eq]

/-- What `json.Marshal` writes is read back with as much fuel as its length: a value, the
elements of an array after its `[`, the members of an object after its `{`. -/
def ReadsBack (n : Nat) : Prop :=
  (∀ v r, (marshal v).length ≤ n → (∀ c ∈ r.head?, isDigit c = false) →
    parseValue n (marshal v ++ r) = some (v, r)) ∧
  (∀ x xs r, (marshalElems (x :: xs)).length ≤ n + 1 →
    parseElems n ((marshalElems (x :: xs)).tail ++ r) = some (x :: xs, r)) ∧
  (∀ k v kvs r, (marshalMembers ((k, v) :: kvs)).length ≤ n + 1 →
    parseMembers n ((marshalMembers ((k, v) :: kvs)).tail ++ r) = some ((k, v) :: kvs, r))

theorem readsBack_zero : ReadsBack 0 := by
  refine ⟨fun v r hl _ => ?_, fun x xs r hl => ?_, fun k v kvs r hl => ?_⟩
  · obtain ⟨c, rest, hc, -⟩ := marshal_head v
    simp [hc] at hl
  · obtain ⟨c, rest, hc, -⟩ := marshal_head x
    simp [marshalElems, hc] at hl
  · simp [marshalMembers] at hl

section Step

variable {n : Nat} (ih : ReadsBack n)
include ih

theorem readsBack_value (v : Json) (r : List Char) (hl : (marshal v).length ≤ n + 1)
    (hr : ∀ c ∈ r.head?, isDigit c = false) : parseValue (n + 1) (marshal v ++ r) = some (v, r) := by
  cases v with
  | null => rfl
  | bool b => cases b <;> rfl
  | num k => exact parseValue_num k hr n
  | str s => exact parseValue_marshal_str s r n
  | arr xs =>
    rcases xs with _ | ⟨x, xs⟩
    · rfl
    · have hB := ih.2.1 x xs r (by simpa [marshal, marshalElems] using hl)
      obtain ⟨c, rest, hc, hw, hne⟩ := marshal_head x
      simp only [marshalElems, List.cons_append, List.tail_cons, List.append_assoc, hc] at hB
      simp [parseValue, marshal, skipWs, hc, hw, hne, hB, show isWs '[' = false from rfl]
  | obj kvs =>
    rcases kvs with _ | ⟨⟨k, v⟩, kvs⟩
    · rfl
    · have hC := ih.2.2 k v kvs r (by simpa [marshal, marshalMembers] using hl)
      simp only [marshalMembers, List.cons_append, List.tail_cons, List.append_assoc] at hC
      simp [parseValue, marshal, skipWs, isWs, hC]

theorem readsBack_elems (x : Json) (xs : List Json) (r : List Char)
    (hl : (marshalElems (x :: xs)).length ≤ n + 2) :
    parseElems (n + 1) ((marshalElems (x :: xs)).tail ++ r) = some (x :: xs, r) := by
  rcases xs with _ | ⟨x', xs'⟩
  · have hA := ih.1 x (']' :: r) (by simp [marshalElems] at hl; omega) (by simp [isDigit])
    simp [parseElems, marshalElems, hA, skipWs, isWs]
  · have hA := ih.1 x (marshalElems (x' :: xs') ++ r)
      (by simp [marshalElems] at hl; omega) (by simp [marshalElems, isDigit])
    have hB := ih.2.1 x' xs' r (by simp [marshalElems] at hl ⊢; omega)
    simp only [marshalElems, List.cons_append, List.tail_cons, List.append_assoc] at hA hB ⊢
    simp [parseElems, hA, skipWs, isWs, hB]

theorem readsBack_members (k : String) (v : Json) (kvs : List (String × Json)) (r : List Char)
    (hl : (marshalMembers ((k, v) :: kvs)).length ≤ n + 2) :
    parseMembers (n + 1) ((marshalMembers ((k, v) :: kvs)).tail ++ r) = some ((k, v) :: kvs, r) := by
  have hk := parseChars_encodeChars k.data (':' :: (marshal v ++ (marshalMembers kvs ++ r)))
  rcases kvs with _ | ⟨⟨k', v'⟩, kvs'⟩
  · have hA := ih.1 v ('}' :: r) (by simp [marshalMembers] at hl; omega) (by simp [isDigit])
    simp only [marshalMembers, List.cons_append, List.tail_cons, List.append_assoc,
      List.singleton_append, List.nil_append] at hk ⊢
    simp [parseMembers, hk, hA, skipWs, isWs]
  · have hA := ih.1 v (marshalMembers ((k', v') :: kvs') ++ r)
      (by simp [marshalMembers] at hl; omega) (by simp [marshalMembers, isDigit])
    have hC := ih.2.2 k' v' kvs' r (by simp [marshalMembers] at hl ⊢; omega)
    simp only [marshalMembers, List.cons_append, List.tail_cons, List.append_assoc] at hk hA hC ⊢
    simp [parseMembers, hk, hA, skipWs, isWs, hC]

end Step

theorem readsBack (n : Nat) : ReadsBack n := by
  induction n with
  | zero => exact readsBack_zero
  | succ n ih => exact ⟨readsBack_value ih, readsBack_elems ih, readsBack_members ih⟩

theorem parseValue_marshal_self (v : Json) :
    parseValue ((marshal v).length + 1) (marshal v) = some (v, []) := by
  simpa using (readsBack ((marshal v).length + 1)).1 v [] (by omega) (by simp)

/-- The decoder reads back every value `marshal` writes. -/
theorem decode_marshal (v : Json) : decode ⟨marshal v⟩ = some v := by
  simp [decode, String.length, parseValue_marshal_self, skipWs]

end Json

end BenchmarkOpenbao
