import BenchmarkOpenbao.Json

set_option autoImplicit false

/-!
# The api client, the server, and the vegeta target

The targets reach the server through `api.Client`: `Sys().Mount`, `Logical().Read`, and so
on. A run is a state computation recording each call with the error it failed with. Which
call fails, and what a listing returns, is the server's choice, so a `Client` carries both
and theorems quantify over it. The client requests `"/v1/" + path` joined onto the path of
its address with `path.Join`; the server holds resources by that URL path.
-/

namespace BenchmarkOpenbao

abbrev Header := List (String × List String)

/-- `vegeta.Target`: one request of the attack. A nil body is `""`. -/
structure Target where
  method : String
  url : String
  body : String
  header : Header

structure TargetInfo where
  method : String
  pathPrefix : String

/-- A request is the one `info` describes: its method, and a URL that is the address, the
path prefix, then nothing or a path starting with `/`. -/
def TargetInfo.Describes (info : TargetInfo) (address : String) (t : Target) : Prop :=
  t.method = info.method ∧
    ∃ s : String, t.url = address ++ info.pathPrefix ++ s ∧ (s = "" ∨ s.data.head? = some '/')

theorem TargetInfo.describes_of {info : TargetInfo} {address : String} {t : Target}
    (hm : t.method = info.method) (s : String) (hu : t.url = address ++ info.pathPrefix ++ s)
    (hs : s = "" ∨ s.data.head? = some '/') : info.Describes address t := ⟨hm, s, hu, hs⟩

/-- The request the read and write targets build: the item numbered `1 + rand.Int31n(int32(n))`,
at `url` followed by the number, with the body computed after the draw. -/
def numberedTarget (method url : String) (n : Int) (body : Except Abort String)
    (header : Header) (draw : Nat) : Except Abort Target := do
  let num := 1 + (← randInt31n (goInt32 n) draw)
  let body ← body
  pure { method, url := url ++ strconvItoa num, body, header }

theorem numberedTarget_ok {method url : String} {n : Int} {body : Except Abort String}
    {header : Header} {draw : Nat} {t : Target}
    (h : numberedTarget method url n body header draw = .ok t) :
    ∃ num : Int, 1 ≤ num ∧ num ≤ goInt32 n ∧
      ∃ b, body = .ok b ∧ t = { method, url := url ++ strconvItoa num, body := b, header } := by
  rcases hr : randInt31n (goInt32 n) draw with e | r
  · simp [numberedTarget, hr] at h
  · have hb := randInt31n_range hr
    rcases hbody : body with e | b
    · simp [numberedTarget, hr, hbody] at h
    · simp only [numberedTarget, hr, hbody, except_ok_bind, except_pure, Except.ok.injEq] at h
      exact ⟨1 + r, by omega, by omega, b, rfl, h.symm⟩

theorem numberedTarget_ok_iff (method url : String) (n : Int) (body : Except Abort String)
    (header : Header) (draw : Nat) :
    (∃ t, numberedTarget method url n body header draw = .ok t) ↔
      0 < goInt32 n ∧ ∃ b, body = .ok b := by
  by_cases hn : 0 < goInt32 n
  · rcases body with e | b <;> simp [numberedTarget, randInt31n_of_pos hn, hn]
  · simp [numberedTarget, randInt31n_of_nonpos (Int.not_lt.mp hn), hn]

/-- The body of a KV write: `{"data": {"foo": "aaa…"}}` with `kvSize` letters. -/
def kvWriteBody (kvSize : Int) : Except Abort String :=
  (stringsRepeat "a" kvSize).map fun value => "\x7b\"data\": \x7b\"foo\": \"" ++ value ++ "\"\x7d\x7d"

theorem kvWriteBody_of_nonneg {kvSize : Int} (h : 0 ≤ kvSize) :
    kvWriteBody kvSize = .ok ("\x7b\"data\": \x7b\"foo\": \"" ++ ⟨List.replicate kvSize.toNat 'a'⟩ ++
      "\"\x7d\x7d") := by
  rw [kvWriteBody, ← Int.toNat_of_nonneg h, stringsRepeat_char, Int.toNat_ofNat]; rfl

theorem kvWriteBody_ok_iff (kvSize : Int) : (∃ b, kvWriteBody kvSize = .ok b) ↔ 0 ≤ kvSize := by
  by_cases h : 0 ≤ kvSize
  · simp [kvWriteBody_of_nonneg h, h]
  · simp [kvWriteBody, stringsRepeat_of_neg _ (Int.not_le.mp h), h, Except.map]

/-- The body both KV write targets concatenate by hand is well-formed JSON for every size
Target accepts: it decodes to `{"data": {"foo": "aaa…"}}`. -/
theorem kvWriteBody_decodes {kvSize : Int} {b : String} (h : kvWriteBody kvSize = .ok b) :
    Json.decode b = some (.obj [("data", .obj [("foo", .str ⟨List.replicate kvSize.toNat 'a'⟩)])]) := by
  rw [kvWriteBody_of_nonneg ((kvWriteBody_ok_iff kvSize).mp ⟨b, h⟩), Except.ok.injEq] at h
  subst h
  let as := List.replicate kvSize.toNat 'a'
  have ha : as.all Json.isPlain = true := by simp [as, List.all_eq_true, Json.isPlain]
  let foo := ' ' :: ('"' :: as ++ '"' :: ['}', '}'])
  let inner := '{' :: '"' :: ['f', 'o', 'o'] ++ '"' :: ':' :: foo
  have hfoo : ∀ n, Json.parseValue (n + 1) foo = some (.str ⟨as⟩, ['}', '}']) := fun n => by
    rw [Json.parseValue_ws]; exact Json.parseValue_plain ha _ _
  have hinner : ∀ n, Json.parseValue (n + 4) (' ' :: inner) =
      some (.obj [("foo", .str ⟨as⟩)], ['}']) := fun n => by
    rw [Json.parseValue_ws]
    exact Json.parseValue_single (d := 1) (by decide) hfoo rfl (n + 1)
  have hv : ∀ n, Json.parseValue (n + 4 + 2) ('{' :: '"' :: ['d', 'a', 't', 'a'] ++ '"' :: ':' ::
      ' ' :: inner) = some (.obj [("data", .obj [("foo", .str ⟨as⟩)])], []) :=
    Json.parseValue_single (d := 4) (by decide) hinner rfl
  have hdata : ("\x7b\"data\": \x7b\"foo\": \"" ++ (⟨as⟩ : String) ++ "\"\x7d\x7d").data =
      '{' :: '"' :: ['d', 'a', 't', 'a'] ++ '"' :: ':' :: ' ' :: inner := by simp [inner, foo]
  have hlen : "\x7b\"data\": \x7b\"foo\": \"".length = 18 := rfl
  exact Json.decode_of_parseValue (d := 6) (fun n => by rw [hdata]; exact hv n) (show Json.skipWs [] = [] from rfl)
    (by simp only [String.length_append]; omega)

theorem kvWriteBody_decodes_three :
    kvWriteBody 3 = .ok "\x7b\"data\": \x7b\"foo\": \"aaa\"\x7d\x7d" ∧
      Json.decode "\x7b\"data\": \x7b\"foo\": \"aaa\"\x7d\x7d" =
        some (.obj [("data", .obj [("foo", .str ⟨List.replicate (3 : Int).toNat 'a'⟩)])]) :=
  have h : kvWriteBody 3 = .ok "\x7b\"data\": \x7b\"foo\": \"aaa\"\x7d\x7d" := rfl
  ⟨h, kvWriteBody_decodes h⟩

/-- `secval`, the value both KV Setups seed every secret with: `{"data": {"foo": 1}}`. -/
def secval : Json := .obj [("data", .obj [("foo", .num 1)])]

structure TopLevelTargetConfig where
  randomMounts : Bool

structure MountInput where
  type : String
  options : List (String × String)

/-- `api.MountOutput`, the field the targets read. A listing maps paths to `*MountOutput`,
so its entries are `Option MountOutput`, `none` a nil pointer. -/
structure MountOutput where
  type : String

structure Secret where
  data : List (String × Json)

inductive Call
  | mount (path : String) (input : MountInput)
  | read (path : String)
  | write (path : String) (data : Json)
  | delete (path : String)
  | list (path : String)
  | listMounts
  | listAuth
  | unmount (path : String)
  | disableAuth (path : String)

namespace Call

def requestPath : Call → String
  | .mount p _ | .unmount p => "/v1/sys/mounts/" ++ p
  | .read p | .write p _ | .delete p | .list p => "/v1/" ++ p
  | .listMounts => "/v1/sys/mounts"
  | .listAuth => "/v1/sys/auth"
  | .disableAuth p => "/v1/sys/auth/" ++ p

def creates : Call → Bool
  | .mount _ _ | .write _ _ => true
  | _ => false

def removes : Call → Bool
  | .delete _ | .unmount _ | .disableAuth _ => true
  | _ => false

end Call

/-- A request path made of elements `path.Clean` keeps, after a leading `/`. -/
def PlainPath (r : String) (segs : List String) : Prop :=
  segs ≠ [] ∧ (∀ e ∈ segs, PlainSegment e) ∧ r = ⟨'/' :: joinSlash (segs.map String.data)⟩

theorem plainPath_v1 {segs : List String} (hs : segs ≠ []) (hp : ∀ e ∈ segs, PlainSegment e) :
    PlainPath ("/v1/" ++ ⟨joinSlash (segs.map String.data)⟩) ("v1" :: segs) := by
  refine ⟨List.cons_ne_nil _ _, List.forall_mem_cons.mpr ⟨by decide, hp⟩, String.ext ?_⟩
  obtain ⟨s, ss, rfl⟩ := List.exists_cons_of_ne_nil hs
  simp [joinSlash]

/-- The server as one run meets it. -/
structure Client where
  /-- `client.Address()` -/
  address : String
  /-- the path of the address, onto which request paths are joined -/
  addressPath : String
  /-- `client.Token()` -/
  token : String
  /-- `client.Headers().Get("X-Vault-Namespace")` -/
  namespaceHeader : String
  /-- the error the `n`-th call of the run fails with, if it fails -/
  fails : Nat → Option String
  /-- a successful LIST's secret; `none` is the nil secret of an empty listing -/
  listing : String → Option Secret
  /-- a successful `ListMounts`, path to mount -/
  mounts : List (String × Option MountOutput)
  /-- a successful `ListAuth`, path to mount -/
  auths : List (String × Option MountOutput)

/-- The calls of a run, each with the error it failed with. -/
abbrev Trace := List (Call × Option String)

/-- A Go computation against the server: from the calls so far, its result or why it
stopped, and the calls so far after it. A panic keeps the calls made before it. -/
def ClientM (α : Type) : Type := Trace → Except Abort α × Trace

instance : Monad ClientM where
  pure a := fun t => (.ok a, t)
  bind x f := fun t =>
    match x t with
    | (.ok a, t') => f a t'
    | (.error e, t') => (.error e, t')

instance : MonadLift (Except Abort) ClientM where
  monadLift x := fun t => (x, t)

theorem ClientM.pure_run {α : Type} (a : α) (t : Trace) : (pure a : ClientM α) t = (.ok a, t) :=
  rfl

theorem ClientM.lift_run {α : Type} (x : Except Abort α) (t : Trace) :
    (monadLift x : ClientM α) t = (x, t) := rfl

theorem ClientM.bind_run {α β : Type} (x : ClientM α) (f : α → ClientM β) (t : Trace) :
    (x >>= f) t = match x t with
      | (.ok a, t') => f a t'
      | (.error e, t') => (.error e, t') := rfl

namespace Client

variable (cl : Client)

def urlPath (c : Call) : String := pathJoin [cl.addressPath, c.requestPath]

/-- Send a call: the server's answer is the error it fails with, if any. -/
def send (c : Call) : ClientM (Option String) := fun t =>
  (.ok (cl.fails t.length), t ++ [(c, cl.fails t.length)])

def list (p : String) : ClientM (Except String (Option Secret)) := do
  match ← cl.send (.list p) with
  | some e => pure (.error e)
  | none => pure (.ok (cl.listing p))

def listMounts : ClientM (Except String (List (String × Option MountOutput))) := do
  match ← cl.send .listMounts with
  | some e => pure (.error e)
  | none => pure (.ok cl.mounts)

def listAuth : ClientM (Except String (List (String × Option MountOutput))) := do
  match ← cl.send .listAuth with
  | some e => pure (.error e)
  | none => pure (.ok cl.auths)

theorem listMounts_of_succeeds (hf : ∀ n, cl.fails n = none) (t : Trace) :
    cl.listMounts t = (.ok (.ok cl.mounts), t ++ [(.listMounts, none)]) := by
  simp [listMounts, send, hf, ClientM.bind_run, ClientM.pure_run]

theorem listAuth_of_succeeds (hf : ∀ n, cl.fails n = none) (t : Trace) :
    cl.listAuth t = (.ok (.ok cl.auths), t ++ [(.listAuth, none)]) := by
  simp [listAuth, send, hf, ClientM.bind_run, ClientM.pure_run]

/-- `http.Header{"X-Vault-Token": ..., "X-Vault-Namespace": ...}`, as every Setup builds it. -/
def vaultHeaders : Header :=
  [("X-Vault-Token", [cl.token]), ("X-Vault-Namespace", [cl.namespaceHeader])]

theorem urlPath_eq_of_double_slash {c c' : Call} (s : String)
    (h : c.requestPath = "/v1//" ++ s) (h' : c'.requestPath = "/v1/" ++ s) :
    cl.urlPath c = cl.urlPath c' := by
  rw [urlPath, urlPath, h, h',
    pathJoin_pair _ (show "/v1//" ++ s ≠ "" from fun he => List.cons_ne_nil _ _ (congrArg String.data he)),
    pathJoin_pair _ (show "/v1/" ++ s ≠ "" from fun he => List.cons_ne_nil _ _ (congrArg String.data he))]
  let pre : List Char := if cl.addressPath = "" then [] else (cl.addressPath ++ "/").data
  have e : ∀ t : String,
      (if cl.addressPath = "" then t else cl.addressPath ++ "/" ++ t) = ⟨pre ++ t.data⟩ :=
    fun t => by split <;> exact String.ext (by simp [pre, *])
  rw [e, e]
  convert pathClean_double_slash (pre ++ ['/', 'v', '1']) s.data using 3 <;> simp

theorem urlPath_plain {c : Call} {segs : List String} (h : PlainPath c.requestPath segs) :
    cl.urlPath c = pathClean ⟨(if cl.addressPath = "" then [] else cl.addressPath.data ++ ['/']) ++
      '/' :: joinSlash (segs.map String.data)⟩ := by
  rw [urlPath, h.2.2, pathJoin_pair _ fun h0 => by simp [String.ext_iff] at h0]
  split
  · rfl
  · exact congrArg pathClean (String.ext (by simp))

theorem urlPath_inj {c c' : Call} {segs segs' : List String} (h : PlainPath c.requestPath segs)
    (h' : PlainPath c'.requestPath segs') (he : cl.urlPath c = cl.urlPath c') : segs = segs' := by
  obtain ⟨P, hP⟩ := splitSlash_pathClean_plain
    (if cl.addressPath = "" then [] else cl.addressPath.data ++ ['/'])
  have e := congrArg (fun u : String => splitSlash u.data) he
  simp only [cl.urlPath_plain h, cl.urlPath_plain h', hP _ h.1 h.2.1, hP _ h'.1 h'.2.1,
    List.append_cancel_left_eq] at e
  exact List.map_injective_iff.mpr (fun _ _ => String.ext) e

/-- The server after one call: a failed call changes nothing. A resource is its exact URL
path; OpenBao also lower-cases and trims ACL policy names, which this does not, so results that
compare policy paths take names it stores as written. -/
def apply (s : List String) : Call × Option String → List String
  | (_, some _) => s
  | (c, none) =>
    if c.creates then s ++ [cl.urlPath c]
    else if c.removes then s.filter (· ≠ cl.urlPath c) else s

/-- The server, as the URL paths of what it holds, after a run's calls. -/
def runTrace (s : List String) (t : Trace) : List String := t.foldl cl.apply s

end Client

theorem send_run (cl : Client) (c : Call) (t : Trace) :
    cl.send c t = (.ok (cl.fails t.length), t ++ [(c, cl.fails t.length)]) := rfl

theorem listMounts_result (cl : Client) (t : Trace) :
    (cl.listMounts t).1 = .ok (.ok cl.mounts) ∨ ∃ e, (cl.listMounts t).1 = .ok (.error e) := by
  simp only [Client.listMounts, ClientM.bind_run, send_run]
  cases cl.fails t.length <;> simp [ClientM.pure_run]

theorem listAuth_result (cl : Client) (t : Trace) :
    (cl.listAuth t).1 = .ok (.ok cl.auths) ∨ ∃ e, (cl.listAuth t).1 = .ok (.error e) := by
  simp only [Client.listAuth, ClientM.bind_run, send_run]
  cases cl.fails t.length <;> simp [ClientM.pure_run]

/-- `for i := 1; i <= n; i++`, stopping at the first error the body returns. -/
def forEach (body : Nat → ClientM (Option String)) : Nat → Nat → ClientM (Option String)
  | _, 0 => pure none
  | i, k + 1 => do
    match ← body i with
    | some e => pure (some e)
    | none => forEach body (i + 1) k

/-- Send `c`, and on error return the error `msg` makes of it: every
`_, err := client...; if err != nil { return fmt.Errorf(...) }` of the targets. -/
def Client.sendOr (cl : Client) (c : Call) (msg : String → String) : ClientM (Option String) := do
  match ← cl.send c with
  | some err => pure (some (msg err))
  | none => pure none

def Client.writeOr (cl : Client) (path : String) (data : Json) (msg : String → String) :
    ClientM (Option String) :=
  cl.sendOr (.write path data) msg

/-- A Setup's seeding loop: `for i := 1; i <= n; i++`, write `data` at `path i`, stopping at
the first error, which `msg i` reports. -/
def Client.seed (cl : Client) (path : Nat → String) (data : Json) (msg : Nat → String → String)
    (n : Int) : ClientM (Option String) :=
  forEach (fun i => cl.writeOr (path i) data (msg i)) 1 n.toNat

theorem forEach_sendOr_ok (cl : Client) (call : Nat → Call) (msg : Nat → String → String)
    (i k : Nat) (t t' : Trace) (h : forEach (fun j => cl.sendOr (call j) (msg j)) i k t = (.ok none, t')) :
    t' = t ++ (List.range k).map fun j => (call (i + j), none) := by
  induction k generalizing i t with
  | zero => cases h; simp
  | succ k ih =>
    rw [forEach, ClientM.bind_run, Client.sendOr, ClientM.bind_run, send_run] at h
    cases hf : cl.fails t.length with
    | some e => simp [hf, ClientM.pure_run] at h
    | none =>
      simp only [hf, ClientM.pure_run] at h
      rw [ih (i + 1) _ h, List.range_succ_eq_map]
      simp [Nat.add_assoc, Nat.add_comm 1]

theorem forEach_sendOr_of_succeeds (cl : Client) (hf : ∀ n, cl.fails n = none) (call : Nat → Call)
    (msg : Nat → String → String) (i k : Nat) (t : Trace) :
    forEach (fun j => cl.sendOr (call j) (msg j)) i k t =
      (.ok none, t ++ (List.range k).map fun j => (call (i + j), none)) := by
  induction k generalizing i t with
  | zero => simp [forEach, ClientM.pure_run]
  | succ k ih =>
    rw [forEach, ClientM.bind_run, Client.sendOr, ClientM.bind_run, send_run]
    simp only [hf, ClientM.pure_run]
    rw [ih (i + 1), List.range_succ_eq_map]
    simp [Nat.add_assoc, Nat.add_comm 1]

theorem seed_ok (cl : Client) (path : Nat → String) (data : Json) (msg : Nat → String → String)
    (n : Int) {t t' : Trace} (h : cl.seed path data msg n t = (.ok none, t')) :
    t' = t ++ (List.range n.toNat).map fun j => (Call.write (path (1 + j)) data, none) :=
  forEach_sendOr_ok cl (fun j => .write (path j) data) msg 1 _ t t' h

theorem mem_seeded {path : Nat → String} {data : Json} {N n : Int} (h0 : 0 ≤ N) (h1 : 1 ≤ n)
    (h2 : n ≤ goInt32 N) :
    ∃ k : Nat, n = k ∧ (k : Int) ≤ N ∧ (Call.write (path k) data, (none : Option String)) ∈
      (List.range N.toNat).map fun j => (Call.write (path (1 + j)) data, none) := by
  have hle := goInt32_le h0 (by omega)
  refine ⟨n.toNat, by omega, by omega,
    List.mem_map.mpr ⟨n.toNat - 1, List.mem_range.mpr (by omega), ?_⟩⟩
  rw [show 1 + (n.toNat - 1) = n.toNat by omega]

theorem runTrace_append (cl : Client) (s : List String) (t u : Trace) :
    cl.runTrace s (t ++ u) = cl.runTrace (cl.runTrace s t) u := List.foldl_append _ _ _ _

theorem runTrace_of_no_removal (cl : Client) (u : Trace) (hu : ∀ e ∈ u, e.1.removes = false)
    (s : List String) :
    cl.runTrace s u = s ++ (u.filter fun e => e.2.isNone && e.1.creates).map (cl.urlPath ·.1) := by
  induction u generalizing s with
  | nil => simp [Client.runTrace]
  | cons e u ih =>
    obtain ⟨c, err⟩ := e
    have hc : c.removes = false := hu _ (List.mem_cons_self _ _)
    have ih' := ih (fun e he => hu e (List.mem_cons_of_mem _ he))
    simp only [Client.runTrace, List.foldl_cons] at ih' ⊢
    cases err <;> cases hcr : c.creates <;> simp [Client.apply, hcr, hc, ih']

theorem Call.creates_of_removes {c : Call} (h : c.removes = true) : c.creates = false := by
  cases c <;> simp_all [Call.removes, Call.creates]

theorem mem_runTrace_of_created (cl : Client) {c : Call} (hc : c.creates = true) (u : Trace)
    (hu : ∀ e ∈ u, e.1.removes = false) (s : List String) :
    cl.urlPath c ∈ cl.runTrace s ((c, none) :: u) := by
  have hr : c.removes = false := Bool.eq_false_iff.mpr fun hr => by
    simp [Call.creates_of_removes hr] at hc
  rw [runTrace_of_no_removal cl _ (List.forall_mem_cons.mpr ⟨hr, hu⟩)]
  simp [hc]

theorem runTrace_of_removals (cl : Client) (u : Trace)
    (hu : ∀ e ∈ u, e.2 = none ∧ e.1.removes = true) (s : List String) :
    cl.runTrace s u = s.filter fun x => x ∉ u.map (cl.urlPath ·.1) := by
  induction u generalizing s with
  | nil => simp [Client.runTrace]
  | cons e u ih =>
    obtain ⟨c, err⟩ := e
    obtain ⟨rfl, hr⟩ := hu _ (List.mem_cons_self _ _)
    have hc : c.creates = false := Call.creates_of_removes hr
    simp only [Client.runTrace, List.foldl_cons] at ih ⊢
    rw [ih (fun e he => hu e (List.mem_cons_of_mem _ he))]
    simp only [Client.apply, hc, hr, Bool.false_eq_true, if_false, if_true, List.filter_filter]
    exact List.filter_congr fun x _ => by by_cases hx : x = cl.urlPath c <;> simp [hx]

theorem runTrace_cons_of_neutral (cl : Client) {c : Call} (hc : c.creates = false)
    (hr : c.removes = false) (err : Option String) (s : List String) (u : Trace) :
    cl.runTrace s ((c, err) :: u) = cl.runTrace s u := by
  cases err <;> simp [Client.runTrace, Client.apply, hc, hr]

theorem mem_runTrace_of_spared (cl : Client) {x : String} {v : Trace}
    (hc : ∀ e ∈ v, e.1.creates = false)
    (hx : ∀ e ∈ v, e.2 = none → e.1.removes = true → cl.urlPath e.1 ≠ x) {s : List String}
    (hs : x ∈ s) : x ∈ cl.runTrace s v := by
  induction v generalizing s with
  | nil => exact hs
  | cons e v ih =>
    refine ih (fun e he => hc e (List.mem_cons_of_mem _ he))
      (fun e he => hx e (List.mem_cons_of_mem _ he)) ?_
    obtain ⟨c, _ | err⟩ := e
    · have hcr : c.creates = false := hc _ (List.mem_cons_self _ _)
      simp only [Client.apply, hcr, Bool.false_eq_true, if_false]
      split
      · exact List.mem_filter.mpr ⟨hs, by simpa using (hx _ (List.mem_cons_self _ _) rfl ‹_›).symm⟩
      · exact hs
    · exact hs

theorem runTrace_perm_removals (cl : Client) {u u' : Trace} (hp : u.Perm u')
    (hu : ∀ e ∈ u, e.2 = none ∧ e.1.removes = true) (s : List String) :
    cl.runTrace s u = cl.runTrace s u' := by
  rw [runTrace_of_removals cl u hu, runTrace_of_removals cl u' fun e he => hu e (hp.mem_iff.mpr he)]
  exact List.filter_congr fun x _ => by simp only [(hp.map (cl.urlPath ·.1)).mem_iff]

theorem runTrace_create_remove (cl : Client) (w d : Trace)
    (hw : ∀ e ∈ w, e.2 = none ∧ e.1.creates = true) (hd : ∀ e ∈ d, e.2 = none ∧ e.1.removes = true)
    (hurl : d.map (cl.urlPath ·.1) = w.map (cl.urlPath ·.1)) (s : List String) :
    cl.runTrace s (w ++ d) = s.filter fun x => x ∉ w.map (cl.urlPath ·.1) := by
  have hr : ∀ e ∈ w, e.1.removes = false := fun e he => by
    cases hc : e.1.removes
    · rfl
    · simpa [Call.creates_of_removes hc] using (hw e he).2
  have hf : w.filter (fun e => e.2.isNone && e.1.creates) = w :=
    List.filter_eq_self.mpr fun e he => by simp [(hw e he).1, (hw e he).2]
  rw [runTrace_append, runTrace_of_no_removal cl w hr, runTrace_of_removals cl d hd, hf, hurl,
    List.filter_append, (List.filter_eq_nil_iff (l := w.map (cl.urlPath ·.1))).mpr fun x hx => by
      simpa using hx, List.append_nil]

/-- Every call `prog` makes, on every path, a panic's included, satisfies `P`. -/
def CallsAll {α : Type} (P : Call → Prop) (prog : ClientM α) : Prop :=
  ∀ t, ∃ u, (prog t).2 = t ++ u ∧ ∀ e ∈ u, P e.1

namespace CallsAll

variable {α β : Type} {P : Call → Prop}

protected theorem pure (a : α) : CallsAll P (pure a : ClientM α) :=
  fun t => ⟨[], by simp [ClientM.pure_run]⟩

protected theorem lift (x : Except Abort α) : CallsAll P (monadLift x : ClientM α) :=
  fun t => ⟨[], by simp [monadLift, MonadLift.monadLift]⟩

protected theorem send (cl : Client) {c : Call} (h : P c) : CallsAll P (cl.send c) :=
  fun t => ⟨[(c, cl.fails t.length)], rfl, by simp [h]⟩

protected theorem bind {x : ClientM α} {f : α → ClientM β} (hx : CallsAll P x)
    (hf : ∀ a, CallsAll P (f a)) : CallsAll P (x >>= f) := by
  intro t
  obtain ⟨u, hu, hP⟩ := hx t
  rw [ClientM.bind_run]
  rcases h : x t with ⟨r, t'⟩
  rw [h] at hu
  subst hu
  cases r with
  | ok a =>
    obtain ⟨v, hv, hQ⟩ := hf a (t ++ u)
    exact ⟨u ++ v, by simp [hv], fun e he => (List.mem_append.mp he).elim (hP e) (hQ e)⟩
  | error e => exact ⟨u, rfl, hP⟩

protected theorem forEach {body : Nat → ClientM (Option String)} (hb : ∀ i, CallsAll P (body i))
    (i k : Nat) : CallsAll P (BenchmarkOpenbao.forEach body i k) := by
  induction k generalizing i with
  | zero => exact CallsAll.pure _
  | succ k ih =>
    refine CallsAll.bind (hb i) fun r => ?_
    cases r
    · exact ih (i + 1)
    · exact CallsAll.pure _

protected theorem sendOr (cl : Client) {c : Call} (msg : String → String) (h : P c) :
    CallsAll P (cl.sendOr c msg) :=
  CallsAll.bind (CallsAll.send cl h) fun r => by cases r <;> exact CallsAll.pure _

protected theorem seed (cl : Client) {path : Nat → String} {data : Json}
    (msg : Nat → String → String) (n : Int) (h : ∀ i, P (.write (path i) data)) :
    CallsAll P (cl.seed path data msg n) :=
  CallsAll.forEach (fun i => CallsAll.sendOr cl (msg i) (h i)) 1 _

protected theorem mono {Q : Call → Prop} (h : ∀ c, P c → Q c) {prog : ClientM α}
    (hp : CallsAll P prog) : CallsAll Q prog := fun t =>
  let ⟨u, hu, hP⟩ := hp t
  ⟨u, hu, fun e he => h _ (hP e he)⟩

protected theorem lift_ok_bind {a : α} {f : α → ClientM β} (hf : CallsAll P (f a)) :
    CallsAll P (monadLift (Except.ok a : Except Abort α) >>= f) := hf

protected theorem list (cl : Client) {p : String} (h : P (.list p)) : CallsAll P (cl.list p) :=
  CallsAll.bind (CallsAll.send cl h) fun r => by cases r <;> exact CallsAll.pure _

protected theorem listMounts (cl : Client) (h : P .listMounts) : CallsAll P cl.listMounts :=
  CallsAll.bind (CallsAll.send cl h) fun r => by cases r <;> exact CallsAll.pure _

protected theorem listAuth (cl : Client) (h : P .listAuth) : CallsAll P cl.listAuth :=
  CallsAll.bind (CallsAll.send cl h) fun r => by cases r <;> exact CallsAll.pure _

end CallsAll

theorem apply_sublist (cl : Client) (s : List String) {e : Call × Option String}
    (he : e.1.creates = false) : (cl.apply s e).Sublist s := by
  obtain ⟨c, _ | _⟩ := e
  · simp only [Client.apply, he, Bool.false_eq_true, if_false]
    split
    · exact List.filter_sublist s
    · exact List.Sublist.refl s
  · exact List.Sublist.refl s

theorem runTrace_of_no_creation (cl : Client) (u : Trace) (hu : ∀ e ∈ u, e.1.creates = false)
    (s : List String) : (cl.runTrace s u).Sublist s := by
  induction u generalizing s with
  | nil => exact List.Sublist.refl s
  | cons e u ih =>
    exact (ih (fun e he => hu e (List.mem_cons_of_mem _ he)) _).trans
      (apply_sublist cl s (hu e (List.mem_cons_self _ _)))


/-- `prog` never panics, from any calls so far; a `log.Fatalf` is not a panic. -/
def NoPanic {α : Type} (prog : ClientM α) : Prop := ∀ t msg, (prog t).1 ≠ .error (.panic msg)

namespace NoPanic

variable {α β : Type}

protected theorem pure (a : α) : NoPanic (pure a : ClientM α) := fun _ _ h => by cases h

protected theorem lift {x : Except Abort α} (hx : ∀ msg, x ≠ .error (.panic msg)) :
    NoPanic (monadLift x : ClientM α) := fun _ msg => hx msg

protected theorem send (cl : Client) (c : Call) : NoPanic (cl.send c) := fun _ _ h => by cases h

protected theorem bind {x : ClientM α} {f : α → ClientM β} (hx : NoPanic x)
    (hf : ∀ a, NoPanic (f a)) : NoPanic (x >>= f) := by
  intro t msg
  rw [ClientM.bind_run]
  rcases h : x t with ⟨_ | a, t'⟩
  · rename_i e
    intro he
    cases he
    exact hx t msg (by rw [h])
  · exact hf a t' msg

protected theorem listMounts (cl : Client) : NoPanic cl.listMounts :=
  NoPanic.bind (NoPanic.send cl _) fun r => by cases r <;> exact NoPanic.pure _

protected theorem listAuth (cl : Client) : NoPanic cl.listAuth :=
  NoPanic.bind (NoPanic.send cl _) fun r => by cases r <;> exact NoPanic.pure _

protected theorem forEach {body : Nat → ClientM (Option String)} (hb : ∀ i, NoPanic (body i))
    (i k : Nat) : NoPanic (BenchmarkOpenbao.forEach body i k) := by
  induction k generalizing i with
  | zero => exact NoPanic.pure _
  | succ k ih =>
    refine NoPanic.bind (hb i) fun r => ?_
    cases r
    · exact ih (i + 1)
    · exact NoPanic.pure _

protected theorem sendOr (cl : Client) (c : Call) (msg : String → String) :
    NoPanic (cl.sendOr c msg) :=
  NoPanic.bind (NoPanic.send cl _) fun r => by cases r <;> exact NoPanic.pure _

protected theorem seed (cl : Client) (path : Nat → String) (data : Json)
    (msg : Nat → String → String) (n : Int) : NoPanic (cl.seed path data msg n) :=
  NoPanic.forEach (fun i => NoPanic.sendOr cl _ (msg i)) 1 _

end NoPanic

/-- The resource path of a Setup: the human name, or with `RandomMounts` a fresh UUID;
`log.Fatalf` when none can be made. -/
def resourcePath (name : String) (top : TopLevelTargetConfig) (uuid : Except String String) :
    Except Abort String :=
  if top.randomMounts then
    match uuid with
    | .ok u => .ok u
    | .error _ => .error (.fatal "can't create UUID")
  else .ok name

/-- A Target's `uuid.GenerateUUID()`, with `panic(err)` when it fails. -/
def uuidOrPanic (uuid : Except String String) : Except Abort String :=
  match uuid with
  | .ok u => .ok u
  | .error err => .error (.panic err)

def ClientM.panic {α : Type} (msg : String) : ClientM α := fun t => (.error (.panic msg), t)

/-- What a nil pointer dereference panics with. -/
def nilDereference : String := "runtime error: invalid memory address or nil pointer dereference"

theorem CallsAll.panic {α : Type} {P : Call → Prop} (msg : String) :
    CallsAll P (ClientM.panic msg : ClientM α) :=
  fun t => ⟨[], by simp [ClientM.panic]⟩

theorem resourcePath_ne_panic (name : String) (top : TopLevelTargetConfig)
    (uuid : Except String String) (msg : String) :
    resourcePath name top uuid ≠ .error (.panic msg) := by
  unfold resourcePath
  split
  · split <;> simp
  · simp

/-- `Cleanup` of the mount-backed targets: delete the mount named by `pathPrefix`. -/
def mountCleanup (pathPrefix : String) (cl : Client) : ClientM (Option String) :=
  cl.sendOr (.delete (stringsReplace pathPrefix "/v1/" "/sys/mounts/")) ("error cleaning up mount: " ++ ·)

theorem mountCleanup_run (m : String) (cl : Client) (t : Trace) :
    (mountCleanup ("/v1/" ++ m) cl t).2 = t ++ [(.delete ("/sys/mounts/" ++ m), cl.fails t.length)] := by
  simp only [mountCleanup, Client.sendOr, ClientM.bind_run, send_run, stringsReplace_append]
  cases cl.fails t.length <;> rfl

theorem mountCleanup_reaches_mount (cl : Client) (m : String) (input : MountInput) :
    cl.urlPath (.delete ("/sys/mounts/" ++ m)) = cl.urlPath (.mount m input) :=
  cl.urlPath_eq_of_double_slash ("sys/mounts/" ++ m)
    (by simp only [Call.requestPath, ← String.append_assoc]; rfl)
    (by simp only [Call.requestPath, ← String.append_assoc]; rfl)

theorem mountCleanup_unmounts (cl : Client) (m : String) (input : MountInput) (s : List String)
    (t : Trace) (h : (mountCleanup ("/v1/" ++ m) cl t).1 = .ok none) :
    cl.urlPath (.mount m input) ∉ cl.runTrace s (mountCleanup ("/v1/" ++ m) cl t).2 := by
  have hf : cl.fails t.length = none := by
    revert h
    simp only [mountCleanup, Client.sendOr, ClientM.bind_run, send_run, stringsReplace_append]
    cases cl.fails t.length <;> simp [ClientM.pure_run]
  rw [mountCleanup_run, hf, runTrace_append, ← mountCleanup_reaches_mount cl m input]
  simp [Client.runTrace, Client.apply, Call.creates, Call.removes]

/-! ## Errors of the server -/

def errorOf {α : Type} : Except String α → Option String
  | .error e => some e
  | .ok _ => none

/-- `prog` stops at the first call the server fails, unless `retry` lets that failure pass,
and returns a result whose error, as `err` reads it, ends with the server's message: every
`if err != nil { return fmt.Errorf("...: %w", err) }` of the targets. -/
def StopsOnError {α : Type} (retry : Call → String → Bool) (err : α → Option String)
    (prog : ClientM α) : Prop :=
  ∀ t, ∃ u, (prog t).2 = t ++ u ∧ ∀ pre c e post, u = pre ++ (c, some e) :: post →
    retry c e = false → post = [] ∧ ∃ r msg, (prog t).1 = .ok r ∧ err r = some (msg ++ e)

namespace StopsOnError

variable {α β : Type} {retry : Call → String → Bool} {err : α → Option String}

theorem of_no_calls {prog : ClientM α} (h : CallsAll (fun _ => False) prog) :
    StopsOnError retry err prog := fun t =>
  let ⟨u, hu, hP⟩ := h t
  ⟨u, hu, fun _ c e _ hd _ =>
    (hP (c, some e) (hd ▸ List.mem_append_right _ (List.mem_cons_self _ _))).elim⟩

protected theorem send (cl : Client) (c : Call) :
    StopsOnError retry (Option.filter (!retry c ·)) (cl.send c) := by
  intro t
  refine ⟨[(c, cl.fails t.length)], rfl, fun pre c' e post hd hr => ?_⟩
  rcases pre with _ | ⟨p, pre⟩
  · simp only [List.nil_append, List.cons.injEq, Prod.mk.injEq] at hd
    obtain ⟨⟨rfl, hf⟩, rfl⟩ := hd
    exact ⟨rfl, _, "", rfl, by simp [hf, hr]⟩
  · simp at hd

protected theorem bind {ex : β → Option String} {x : ClientM β} {f : β → ClientM α}
    (hx : StopsOnError retry ex x)
    (hstop : ∀ b e, ex b = some e → ∃ r msg, f b = pure r ∧ err r = some (msg ++ e))
    (hf : ∀ b, ex b = none → StopsOnError retry err (f b)) : StopsOnError retry err (x >>= f) := by
  intro t
  obtain ⟨u, hu, hP⟩ := hx t
  rw [ClientM.bind_run]
  rcases h : x t with ⟨_ | b, t'⟩ <;> rw [h] at hu hP <;> subst hu <;> dsimp only at hP ⊢
  · -- `x` aborts, so no failed call of `u` is left unreported
    exact ⟨u, rfl, fun pre c e post hd hr => by
      obtain ⟨-, r, -, hr', -⟩ := hP pre c e post hd hr; cases hr'⟩
  cases hb : ex b with
  | some e₀ =>
    obtain ⟨r, msg, hfb, hr⟩ := hstop b e₀ hb
    refine ⟨u, by rw [hfb]; rfl, fun pre c e post hd hre => ?_⟩
    obtain ⟨rfl, r', msg', hr', he⟩ := hP pre c e post hd hre
    cases hr'
    obtain rfl := Option.some.inj (hb.symm.trans he)
    exact ⟨rfl, r, msg ++ msg', by rw [hfb]; rfl, by rw [hr, String.append_assoc]⟩
  | none =>
    obtain ⟨v, hv, hQ⟩ := hf b hb (t ++ u)
    refine ⟨u ++ v, by rw [hv, List.append_assoc], fun pre c e post hd hre => ?_⟩
    rcases List.append_eq_append_iff.mp hd.symm with ⟨_ | ⟨y, a'⟩, hu', hpost⟩ | ⟨c', rfl, hv'⟩
    · exact hQ [] c e post (by simpa using hpost.symm) hre
    · -- a failed call of `u` would have given `x` an error
      obtain ⟨rfl, rfl⟩ := List.cons.inj hpost
      obtain ⟨-, r', msg', hr', he⟩ := hP pre c e a' hu' hre
      cases hr'
      cases hb.symm.trans he
    · exact hQ c' c e post hv' hre

protected theorem lift_bind {y : Except Abort β} {f : β → ClientM α}
    (hf : ∀ b, StopsOnError retry err (f b)) : StopsOnError retry err (monadLift y >>= f) :=
  have hy : StopsOnError retry (fun _ => none) (monadLift y : ClientM β) :=
    of_no_calls (CallsAll.lift _)
  StopsOnError.bind hy (fun _ _ h => by cases h) fun b _ => hf b

protected theorem send_bind (cl : Client) (c : Call) {f : Option String → ClientM α}
    (hs : ∀ e, ∃ r p, f (some e) = pure r ∧ err r = some (p ++ e))
    (hf : StopsOnError retry err (f none)) : StopsOnError retry err (cl.send c >>= f) :=
  StopsOnError.bind (StopsOnError.send cl c)
    (fun r e he => by rw [(Option.filter_eq_some.mp he).1]; exact hs e)
    fun r _ => by
      cases r with
      | none => exact hf
      | some e => obtain ⟨r, p, hr, -⟩ := hs e; rw [hr]; exact of_no_calls (CallsAll.pure _)

protected theorem bind_some {γ : Type} {x : ClientM (Option String)}
    {f : Option String → ClientM (Except String γ)} (hx : StopsOnError retry id x)
    (hs : ∀ e, f (some e) = pure (.error e)) (hf : StopsOnError retry errorOf (f none)) :
    StopsOnError retry errorOf (x >>= f) :=
  StopsOnError.bind hx (fun r e he => ⟨.error e, "", by cases he; exact hs e, rfl⟩)
    fun r hr => by cases hr; exact hf

protected theorem bind_error {γ : Type} {x : ClientM (Except String γ)}
    {f : Except String γ → ClientM α} (hx : StopsOnError retry errorOf x)
    (hs : ∀ e, ∃ r p, f (.error e) = pure r ∧ err r = some (p ++ e))
    (hf : ∀ a, StopsOnError retry err (f (.ok a))) : StopsOnError retry err (x >>= f) :=
  StopsOnError.bind hx
    (fun r e he => by
      cases r with
      | error _ => cases he; exact hs _
      | ok _ => cases he)
    fun r hr => by
      cases r with
      | error _ => cases hr
      | ok a => exact hf a

protected theorem map {γ δ : Type} {x : ClientM (Except String γ)} (g : γ → δ)
    (hx : StopsOnError retry errorOf x) :
    StopsOnError retry errorOf (do let r ← x; pure (r.map g) : ClientM (Except String δ)) :=
  StopsOnError.bind_error hx (fun _ => ⟨_, "", rfl, rfl⟩) fun _ => of_no_calls (CallsAll.pure _)

protected theorem forEach {body : Nat → ClientM (Option String)}
    (hb : ∀ i, StopsOnError retry id (body i)) (i k : Nat) :
    StopsOnError retry id (BenchmarkOpenbao.forEach body i k) := by
  induction k generalizing i with
  | zero => exact of_no_calls (CallsAll.pure _)
  | succ k ih =>
    refine StopsOnError.bind (hb i) (fun r e hr => ⟨some e, "", by cases hr; rfl, rfl⟩) fun r hr => ?_
    cases hr
    exact ih (i + 1)

protected theorem sendOr (cl : Client) (c : Call) {msg : String → String}
    (hm : ∀ e, ∃ p, msg e = p ++ e) : StopsOnError retry id (cl.sendOr c msg) :=
  StopsOnError.send_bind cl c (fun e => let ⟨p, hp⟩ := hm e; ⟨_, p, rfl, by rw [← hp]; rfl⟩)
    (of_no_calls (CallsAll.pure _))

protected theorem seed (cl : Client) (path : Nat → String) (data : Json)
    {msg : Nat → String → String} (hm : ∀ i e, ∃ p, msg i e = p ++ e) (n : Int) :
    StopsOnError retry id (cl.seed path data msg n) :=
  StopsOnError.forEach (fun i => StopsOnError.sendOr cl _ (hm i)) 1 _

protected theorem list (cl : Client) (p : String) : StopsOnError retry errorOf (cl.list p) :=
  StopsOnError.send_bind cl _ (fun _ => ⟨_, "", rfl, rfl⟩) (of_no_calls (CallsAll.pure _))

protected theorem listMounts (cl : Client) : StopsOnError retry errorOf cl.listMounts :=
  StopsOnError.send_bind cl _ (fun _ => ⟨_, "", rfl, rfl⟩) (of_no_calls (CallsAll.pure _))

protected theorem listAuth (cl : Client) : StopsOnError retry errorOf cl.listAuth :=
  StopsOnError.send_bind cl _ (fun _ => ⟨_, "", rfl, rfl⟩) (of_no_calls (CallsAll.pure _))

protected theorem mountCleanup (pathPrefix : String) (cl : Client) :
    StopsOnError retry id (mountCleanup pathPrefix cl) :=
  StopsOnError.sendOr cl _ fun _ => ⟨_, rfl⟩

end StopsOnError

end BenchmarkOpenbao
