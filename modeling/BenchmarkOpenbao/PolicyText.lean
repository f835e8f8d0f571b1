import BenchmarkOpenbao.ACLPolicy

set_option autoImplicit false

/-!
# The policy text, read back

`draftPolicy` sends its policy as HCL text, and the server reads it with HCL v1 into one rule
per `path` stanza. This module reads the text with the grammar of those stanzas,
`path "<p>" { capabilities = [<strings>] }`, after scanning it into tokens as HCL v1 does:
identifiers, string literals, and the marks `{ } [ ] , =` between blanks. In a string literal
HCL v1 ends the string at a quote, reads an escape after a backslash, rejects a line break, NUL
and U+E123, and keeps a `${…}` as it is written, counting braces up to the one that closes it.

The scanner accepts less than HCL v1 does. Of the escapes it reads only `\"`, `\\`, `\n`, `\t`
and `\r`; inside `${…}` it takes no quote, backslash or line break, which HCL v1 copies there;
it reads no numbers or comments. Where it accepts a text, HCL v1 reads the same tokens from it.
-/

namespace BenchmarkOpenbao

namespace PolicyText

/-! ## Machines that read one symbol at a time -/

/-- Run `step` over the input from state `s`, collecting what each step emits; a step that
fails fails the run. -/
def machineRun {σ α β : Type} (step : σ → α → Option (σ × List β)) :
    σ → List α → Option (σ × List β)
  | s, [] => some (s, [])
  | s, a :: as => (step s a).bind fun r =>
    (machineRun step r.1 as).map fun r' => (r'.1, r.2 ++ r'.2)

section Machine

variable {σ α β : Type} {step : σ → α → Option (σ × List β)}

theorem machineRun_cons_of {s s₁ : σ} {a : α} {o₁ : List β} (h : step s a = some (s₁, o₁))
    (as : List α) :
    machineRun step s (a :: as) = (machineRun step s₁ as).map fun r => (r.1, o₁ ++ r.2) := by
  simp [machineRun, h]

theorem machineRun_append {s s₁ s₂ : σ} {as bs : List α} {o₁ o₂ : List β}
    (h₁ : machineRun step s as = some (s₁, o₁)) (h₂ : machineRun step s₁ bs = some (s₂, o₂)) :
    machineRun step s (as ++ bs) = some (s₂, o₁ ++ o₂) := by
  induction as generalizing s o₁ with
  | nil =>
    simp only [machineRun, Option.some.injEq, Prod.mk.injEq] at h₁
    obtain ⟨rfl, rfl⟩ := h₁
    simpa using h₂
  | cons a as ih =>
    rcases ha : step s a with _ | ⟨s', o'⟩
    · simp [machineRun, ha] at h₁
    · rw [machineRun_cons_of ha] at h₁
      rcases hr : machineRun step s' as with _ | ⟨s'', o''⟩
      · simp [hr] at h₁
      · simp only [hr, Option.map_some', Option.some.injEq, Prod.mk.injEq] at h₁
        obtain ⟨rfl, rfl⟩ := h₁
        simp [List.cons_append, machineRun_cons_of ha, ih hr]

end Machine

/-! ## Tokens -/

inductive Token
  | ident (s : String)
  | str (s : String)
  | punct (c : Char)
  deriving DecidableEq, Repr

/-- Where the scanner is, with the characters of the token read so far: between tokens, in an
identifier, in a string literal (just after a `$` when `dollar`), just after a backslash in one,
or in a `${…}` of one with `depth` braces open. -/
inductive LexMode
  | normal
  | ident (acc : List Char)
  | str (acc : List Char) (dollar : Bool)
  | esc (acc : List Char)
  | interp (acc : List Char) (depth : Nat)
  deriving DecidableEq, Repr

def isBlank (c : Char) : Bool := c = ' ' || c = '\t' || c = '\n' || c = '\r'

def isMark (c : Char) : Bool := c = '{' || c = '}' || c = '[' || c = ']' || c = ',' || c = '='

def isIdentStart (c : Char) : Bool := c.isAlpha || c = '_'

def isIdentChar (c : Char) : Bool := c.isAlphanum || c = '_' || c = '-' || c = '.'

/-- A character a string literal holds as it is outside `${…}`. -/
def isLiteral (c : Char) : Bool :=
  c ≠ '"' && c ≠ '\\' && c ≠ '\n' && c ≠ '\x00' && c ≠ '\uE123'

/-- A character copied inside `${…}`, where HCL v1 rejects U+FFFD. -/
def isInterpChar (c : Char) : Bool := isLiteral c && c ≠ '\uFFFD'

def braceDepth (depth : Nat) (c : Char) : Nat :=
  if c = '{' then depth + 1 else if c = '}' then depth - 1 else depth

def unescape (c : Char) : Option Char :=
  if c = '"' then some '"' else if c = '\\' then some '\\' else if c = 'n' then some '\n'
  else if c = 't' then some '\t' else if c = 'r' then some '\r' else none

def strMode (acc : List Char) (dollar : Bool) : Nat → LexMode
  | 0 => .str acc dollar
  | d + 1 => .interp acc (d + 1)

def lexStart (c : Char) : Option (LexMode × List Token) :=
  if isBlank c then some (.normal, [])
  else if isMark c then some (.normal, [.punct c])
  else if c = '"' then some (.str [] false, [])
  else if isIdentStart c then some (.ident [c], [])
  else none

/-- Inside a string literal: a quote ends it, a backslash starts an escape, and a `{` just
after a `$` opens a `${…}`. -/
def lexString (acc : List Char) (dollar : Bool) (c : Char) : Option (LexMode × List Token) :=
  if c = '"' then some (.normal, [.str ⟨acc⟩])
  else if c = '\\' then some (.esc acc, [])
  else if dollar && c = '{' then some (.interp (acc ++ [c]) 1, [])
  else if isLiteral c then some (.str (acc ++ [c]) (c = '$'), [])
  else none

/-- Inside `${…}`: every character is kept, and the brace that closes the first returns to
the literal. -/
def lexInterp (acc : List Char) (depth : Nat) (c : Char) : Option (LexMode × List Token) :=
  if isInterpChar c then some (strMode (acc ++ [c]) false (braceDepth depth c), []) else none

def lexStep : LexMode → Char → Option (LexMode × List Token)
  | .normal, c => lexStart c
  | .ident acc, c =>
    if isIdentChar c then some (.ident (acc ++ [c]), [])
    else (lexStart c).map fun r => (r.1, .ident ⟨acc⟩ :: r.2)
  | .str acc dollar, c => lexString acc dollar c
  | .esc acc, c => (unescape c).map fun e => (.str (acc ++ [e]) false, [])
  | .interp acc depth, c => lexInterp acc depth c

/-- The tokens of a text, which may end in an identifier but not inside a string. -/
def tokenize (text : String) : Option (List Token) :=
  match machineRun lexStep .normal text.data with
  | some (.normal, toks) => some toks
  | some (.ident acc, toks) => some (toks ++ [.ident ⟨acc⟩])
  | _ => none

/-! ## Strings read as written -/

/-- Whether characters met inside a string literal, at brace depth `d` of a `${…}` (just after
a `$` when `dollar`), are read as they are written and leave every `${…}` closed. -/
def verbatimFrom : Nat → Bool → List Char → Bool
  | d, _, [] => d = 0
  | 0, dollar, c :: cs =>
    if dollar && c = '{' then verbatimFrom 1 false cs else isLiteral c && verbatimFrom 0 (c = '$') cs
  | d + 1, _, c :: cs => isInterpChar c && verbatimFrom (braceDepth (d + 1) c) false cs

/-- A string that, written between quotes, HCL v1 reads back as written. -/
def Verbatim (s : String) : Prop := verbatimFrom 0 false s.data = true

instance : DecidablePred Verbatim := fun s => inferInstanceAs (Decidable (verbatimFrom 0 false s.data = true))

theorem lexStep_verbatim (acc : List Char) {d : Nat} {dollar : Bool} {c : Char} {cs : List Char}
    (h : verbatimFrom d dollar (c :: cs) = true) :
    ∃ d' dollar', lexStep (strMode acc dollar d) c = some (strMode (acc ++ [c]) dollar' d', []) ∧
      verbatimFrom d' dollar' cs = true := by
  cases d with
  | zero =>
    by_cases ho : dollar = true ∧ c = '{'
    · obtain ⟨rfl, rfl⟩ := ho
      exact ⟨1, false, rfl, by simpa [verbatimFrom] using h⟩
    · have ho' : (dollar && decide (c = '{')) = false := by simpa using ho
      simp only [verbatimFrom, ho', Bool.false_eq_true, if_false, Bool.and_eq_true] at h
      have hl := h.1
      simp only [isLiteral, Bool.and_eq_true, decide_eq_true_eq] at hl
      refine ⟨0, c = '$', ?_, h.2⟩
      simp [strMode, lexStep, lexString, hl.1.1.1.1, hl.1.1.1.2, ho', h.1]
  | succ d =>
    simp only [verbatimFrom, Bool.and_eq_true] at h
    exact ⟨_, false, by simp [strMode, lexStep, lexInterp, h.1], h.2⟩

/-- Characters HCL v1 reads as written are read into the literal as they are, from any depth
of a `${…}`. -/
theorem scan_verbatim (acc s : List Char) {d : Nat} {dollar : Bool}
    (hs : verbatimFrom d dollar s = true) :
    ∃ dollar', machineRun lexStep (strMode acc dollar d) s = some (.str (acc ++ s) dollar', []) := by
  induction s generalizing acc d dollar with
  | nil =>
    obtain rfl : d = 0 := by simpa [verbatimFrom] using hs
    exact ⟨dollar, by simp [machineRun, strMode]⟩
  | cons c s ih =>
    obtain ⟨d', dollar', hstep, hs'⟩ := lexStep_verbatim acc hs
    obtain ⟨dol, hrun⟩ := ih (acc ++ [c]) hs'
    exact ⟨dol, by simp [machineRun_cons_of hstep, hrun]⟩

example : Verbatim "a$b" ∧ Verbatim "$" ∧ Verbatim "$\x7bx\x7d" ∧ ¬ Verbatim "$\x7bx" ∧
    ¬ Verbatim "a\x00" := by decide

theorem verbatimFrom_plain {s : List Char} (h : ∀ c ∈ s, isLiteral c = true ∧ c ≠ '$') :
    verbatimFrom 0 false s = true := by
  induction s with
  | nil => rfl
  | cons c s ih =>
    have hc := h c (List.mem_cons_self _ _)
    simp [verbatimFrom, hc.1, hc.2, ih fun x hx => h x (List.mem_cons_of_mem _ hx)]

/-! ## Stanzas -/

inductive ParseMode
  | stanza
  | path
  | openBrace (p : String)
  | key (p : String)
  | equals (p : String)
  | openList (p : String)
  | item (p : String) (caps : List String)
  | sep (p : String) (caps : List String)
  | closeBrace (p : String) (caps : List String)
  deriving DecidableEq, Repr

/-- One token of `path "<p>" { capabilities = [<strings>] }`; a list may end in a comma. A
closing brace emits the stanza's rule. -/
def parseStep : ParseMode → Token → Option (ParseMode × List (String × List String))
  | .stanza, .ident s => if s = "path" then some (.path, []) else none
  | .path, .str p => some (.openBrace p, [])
  | .openBrace p, .punct c => if c = '{' then some (.key p, []) else none
  | .key p, .ident s => if s = "capabilities" then some (.equals p, []) else none
  | .equals p, .punct c => if c = '=' then some (.openList p, []) else none
  | .openList p, .punct c => if c = '[' then some (.item p [], []) else none
  | .item p caps, .str c => some (.sep p (caps ++ [c]), [])
  | .item p caps, .punct c => if c = ']' then some (.closeBrace p caps, []) else none
  | .sep p caps, .punct c =>
    if c = ',' then some (.item p caps, []) else if c = ']' then some (.closeBrace p caps, [])
    else none
  | .closeBrace p caps, .punct c => if c = '}' then some (.stanza, [(p, caps)]) else none
  | _, _ => none

/-- The rules of a policy text: each stanza's path and capabilities, in order. -/
def parsePolicy (text : String) : Option (List (String × List String)) :=
  match (tokenize text).bind (machineRun parseStep .stanza) with
  | some (.stanza, rules) => some rules
  | _ => none

/-! ## Scanning what `draftPolicy` writes -/

/-- The tokens between the brackets of a stanza: the capabilities, or one empty string when
there are none. -/
def capTokens : List String → List Token
  | [] => [.str ""]
  | [c] => [.str c]
  | c :: d :: cs => .str c :: .punct ',' :: capTokens (d :: cs)

def stanzaTokens (p : String) (caps : List String) : List Token :=
  [.ident "path", .str p, .punct '{', .ident "capabilities", .punct '=', .punct '['] ++
    capTokens caps ++ [.punct ']', .punct '}']

theorem plain_of_isDigit {c : Char} (h : c.isDigit = true) : isLiteral c = true ∧ c ≠ '$' := by
  have hne : ∀ x : Char, x.isDigit = false → c ≠ x := fun x hx hcx => by rw [hcx, hx] at h; cases h
  simp [isLiteral, hne '"' (by decide), hne '\\' (by decide), hne '\n' (by decide),
    hne '\x00' (by decide), hne '\uE123' (by decide), hne '$' (by decide)]

theorem truncatedPath_verbatim (i L : Nat) : Verbatim (ACLPolicyTest.truncatedPath i L) := by
  refine verbatimFrom_plain fun c hc => ?_
  rcases List.mem_append.mp (List.mem_of_mem_take hc) with hd | ha
  · exact plain_of_isDigit (strconvItoa_isDigit i c hd)
  · rw [List.eq_of_mem_replicate ha]; decide

theorem scan_caps (caps : List String) (hc : ∀ c ∈ caps, Verbatim c) :
    machineRun lexStep (.str [] false) ((stringsJoin caps "\", \"").data ++ ['"']) =
      some (.normal, capTokens caps) := by
  induction caps using capTokens.induct with
  | case1 => rfl
  | case2 c =>
    obtain ⟨_, h⟩ := scan_verbatim [] c.data (hc c (by simp))
    exact machineRun_append h rfl
  | case3 c d cs ih =>
    obtain ⟨dol, h⟩ := scan_verbatim [] c.data (hc c (by simp))
    have hsep : machineRun lexStep (.str c.data dol) "\", \"".data =
        some (.str [] false, [.str c, .punct ',']) := rfl
    have h := machineRun_append h
      (machineRun_append hsep (ih fun x hx => hc x (List.mem_cons_of_mem c hx)))
    simpa [stringsJoin, String.data_append, capTokens] using h

theorem closing_data : "\"]\n\x7d\n".data = '"' :: "]\n\x7d\n".data := rfl

theorem scan_stanza {p : String} (hp : Verbatim p) {caps : List String}
    (hc : ∀ c ∈ caps, Verbatim c) :
    machineRun lexStep .normal (ACLPolicyTest.policyStanza p caps).data = some (.normal, stanzaTokens p caps) := by
  have h1 : machineRun lexStep .normal "path \"".data = some (.str [] false, [.ident "path"]) := rfl
  obtain ⟨dol, h2⟩ := scan_verbatim [] p.data hp
  have h3 : machineRun lexStep (.str p.data dol) "\" \x7b\n  capabilities = [\"".data =
      some (.str [] false, [.str p, .punct '{', .ident "capabilities", .punct '=', .punct '[']) := rfl
  have h5 : machineRun lexStep .normal "]\n\x7d\n".data =
      some (.normal, [.punct ']', .punct '}']) := rfl
  have h := machineRun_append h1 (machineRun_append h2
    (machineRun_append h3 (machineRun_append (scan_caps caps hc) h5)))
  simpa [ACLPolicyTest.policyStanza, String.data_append, closing_data, stanzaTokens] using h

theorem scan_stanzas (caps : List String) (hc : ∀ c ∈ caps, Verbatim c)
    (ps : List String) (hp : ∀ p ∈ ps, Verbatim p) :
    machineRun lexStep .normal (String.join (ps.map (ACLPolicyTest.policyStanza · caps))).data =
      some (.normal, (ps.map (stanzaTokens · caps)).flatten) := by
  induction ps with
  | nil => rfl
  | cons p ps ih =>
    have h := machineRun_append (scan_stanza (hp p (by simp)) hc)
      (ih fun q hq => hp q (List.mem_cons_of_mem p hq))
    simpa [String.join_eq] using h

/-! ## Parsing the stanzas -/

/-- The capabilities a stanza's list reads back as. -/
def readCaps (caps : List String) : List String := if caps = [] then [""] else caps

theorem parse_caps (p : String) (caps : List String) (acc : List String) :
    machineRun parseStep (.item p acc) (capTokens caps) = some (.sep p (acc ++ readCaps caps), []) := by
  induction caps using capTokens.induct generalizing acc with
  | case1 => rfl
  | case2 c => rfl
  | case3 c d cs ih =>
    have h : machineRun parseStep (.item p acc) [.str c, .punct ','] = some (.item p (acc ++ [c]), []) :=
      rfl
    simpa [capTokens, readCaps] using machineRun_append h (ih (acc ++ [c]))

theorem parse_stanza (p : String) (caps : List String) :
    machineRun parseStep .stanza (stanzaTokens p caps) = some (.stanza, [(p, readCaps caps)]) := by
  have h1 : machineRun parseStep .stanza
      [.ident "path", .str p, .punct '{', .ident "capabilities", .punct '=', .punct '['] =
      some (.item p [], []) := rfl
  have h3 : machineRun parseStep (.sep p (readCaps caps)) [.punct ']', .punct '}'] =
      some (.stanza, [(p, readCaps caps)]) := rfl
  simpa [stanzaTokens] using machineRun_append (machineRun_append h1 (parse_caps p caps [])) h3

theorem parse_stanzas (caps : List String) (ps : List String) :
    machineRun parseStep .stanza (ps.map (stanzaTokens · caps)).flatten =
      some (.stanza, ps.map fun p => (p, readCaps caps)) := by
  induction ps with
  | nil => rfl
  | cons p ps ih => simpa using machineRun_append (parse_stanza p caps) ih

theorem parsePolicy_stanzas (caps : List String) (hc : ∀ c ∈ caps, Verbatim c)
    (ps : List String) (hp : ∀ p ∈ ps, Verbatim p) :
    parsePolicy (String.join (ps.map (ACLPolicyTest.policyStanza · caps))) =
      some (ps.map fun p => (p, readCaps caps)) := by
  simp only [parsePolicy, tokenize, scan_stanzas caps hc ps hp, Option.some_bind, parse_stanzas]

end PolicyText

namespace ACLPolicyTest

open PolicyText

end ACLPolicyTest

end BenchmarkOpenbao
