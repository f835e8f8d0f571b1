import BenchmarkOpenbao.TargetSecretKVV1
import BenchmarkOpenbao.TargetSecretKVV2
import BenchmarkOpenbao.ACLPolicy
import BenchmarkOpenbao.TargetSysMount
import BenchmarkOpenbao.TargetSysNamespaces
import BenchmarkOpenbao.TargetSecretRedis

set_option autoImplicit false

/-!
# The registered tests

`TestList` gives each test type a builder; after `ParseConfig` the builder holds its action and
configuration, and Setup turns it into the instance the attack draws targets from. Go reaches
the six implementations through the `BenchmarkBuilder` interface; here they are the
constructors of `Builder` and `Instance`, and each method dispatches on them.
-/

namespace BenchmarkOpenbao

/-- A `BenchmarkBuilder` after `ParseConfig`: the registered action and the parsed
configuration. -/
inductive Builder
  | kvv1 (action : String) (config : KVV1SecretTestConfig)
  | kvv2 (action : String) (config : KVV2SecretTestConfig)
  | acl (action : String) (config : ACLPolicyTestConfig)
  | mount (config : MountTestConfig)
  | ns (config : NamespaceTestConfig)
  | redis (config : RedisDynamicSecretTestConfig)

inductive Instance
  | kvv1 (k : KVV1Test)
  | kvv2 (k : KVV2Test)
  | acl (a : ACLPolicyTest)
  | mount (m : MountTest)
  | ns (n : NamespaceTest)
  | redis (r : RedisDynamicSecret)

/-- What one call of Target draws: the sample `rand.Int31n` accepts, and what
`uuid.GenerateUUID` returns. -/
structure Draw where
  int31 : Nat
  uuid : Except String String

namespace Instance

variable (cl : Client)

def target (d : Draw) : Instance → Except Abort Target
  | .kvv1 k => k.target cl d.int31
  | .kvv2 k => k.target cl d.int31
  | .acl a => a.target cl d.int31
  | .mount m => m.target cl d.uuid
  | .ns n => n.target cl d.uuid
  | .redis r => .ok (r.target cl)

def getTargetInfo : Instance → TargetInfo
  | .kvv1 k => k.getTargetInfo
  | .kvv2 k => k.getTargetInfo
  | .acl a => a.getTargetInfo
  | .mount m => m.getTargetInfo
  | .ns n => n.getTargetInfo
  | .redis r => r.getTargetInfo

def cleanup : Instance → ClientM (Option String)
  | .kvv1 k => k.cleanup cl
  | .kvv2 k => k.cleanup cl
  | .acl a => a.cleanup cl
  | .mount m => m.cleanup cl
  | .ns n => n.cleanup cl
  | .redis r => r.cleanup cl

/-- Every request Target returns is the one `GetTargetInfo` describes: its method, and a URL
made of the address, the path prefix, and nothing or a path starting with `/`. -/
theorem target_matches_info (d : Draw) (i : Instance) {t : Target} (h : i.target cl d = .ok t) :
    i.getTargetInfo.Describes cl.address t := by
  cases i with
  | kvv1 k => exact k.target_describes cl h
  | kvv2 k => exact k.target_describes cl h
  | acl a => exact a.target_describes cl h
  | mount m => exact m.target_describes cl h
  | ns n => exact n.target_describes cl h
  | redis r => cases h; exact r.target_describes cl

theorem target_matches_info_kvv2_list :
    let i := Instance.kvv2 { pathPrefix := "/v1/kv", header := [], action := "list"
                             numKVs := 10, kvSize := 1, detailed := true }
    let cl : Client :=
      { address := "http://127.0.0.1:8200", addressPath := "", token := "root", namespaceHeader := ""
        fails := fun _ => none, listing := fun _ => none, mounts := [], auths := [] }
    let t : Target := { method := "LIST", url := "http://127.0.0.1:8200/v1/kv/detailed-metadata"
                        body := "", header := [] }
    i.target cl ⟨3, .ok "u"⟩ = .ok t ∧ i.getTargetInfo.Describes cl.address t :=
  ⟨rfl, target_matches_info _ ⟨3, .ok "u"⟩ _ rfl⟩

/-- Cleanup panics only in the namespace test, which reads its listing through unchecked type
assertions, and in the mount test on a null entry of the mount or auth table: with no null
entry in those tables, the Cleanup of every other instance never panics. -/
theorem cleanup_never_panics (i : Instance) (hi : ∀ n, i ≠ .ns n)
    (hn : ∀ e ∈ cl.mounts ++ cl.auths, e.2.isSome) : NoPanic (i.cleanup cl) := by
  cases i with
  | kvv1 k => exact NoPanic.sendOr cl _ _
  | kvv2 k => exact NoPanic.sendOr cl _ _
  | acl a => exact NoPanic.forEach (fun _ => NoPanic.sendOr cl _ _) 1 _
  | mount m => exact m.cleanup_no_panic cl hn
  | ns n => exact absurd rfl (hi n)
  | redis r => exact NoPanic.sendOr cl _ _

theorem cleanup_never_panics_acl :
    let i := Instance.acl { pathPrefix := "/v1/sys/policies/acl/bench", header := [], action := "write"
                            policies := 10, pathLength := 25, paths := 1, capabilities := ["read"] }
    let cl : Client :=
      { address := "http://127.0.0.1:8200", addressPath := "", token := "root", namespaceHeader := ""
        fails := fun _ => none, listing := fun _ => none, mounts := [], auths := [] }
    (∀ n, i ≠ .ns n) ∧ (∀ e ∈ cl.mounts ++ cl.auths, e.2.isSome) ∧ NoPanic (i.cleanup cl) :=
  ⟨fun _ h => (by cases h), fun _ h => (by cases h),
    cleanup_never_panics _ _ (fun _ h => by cases h) fun _ h => by cases h⟩

theorem cleanup_calls (i : Instance) : CallsAll (fun c => c.creates = false) (i.cleanup cl) := by
  cases i with
  | kvv1 k => exact CallsAll.sendOr cl _ rfl
  | kvv2 k => exact CallsAll.sendOr cl _ rfl
  | acl a => exact CallsAll.mono (fun _ ⟨_, hc⟩ => hc ▸ rfl) (a.cleanup_deletes cl)
  | mount m => exact m.cleanup_calls cl rfl rfl (fun _ => rfl) (fun _ => rfl)
  | ns n => exact n.cleanup_calls cl rfl fun _ => rfl
  | redis r => exact CallsAll.sendOr cl _ rfl

/-- Cleanup never creates. Whatever the server answers, a failure or a panic included, the
calls of any instance's Cleanup leave the server holding part of what it held before. -/
theorem cleanup_never_creates (i : Instance) (t : Trace) :
    ∃ u, (i.cleanup cl t).2 = t ++ u ∧ ∀ s, (cl.runTrace s u).Sublist s := by
  obtain ⟨u, hu, hc⟩ := i.cleanup_calls cl t
  exact ⟨u, hu, runTrace_of_no_creation cl u hc⟩

/-- Cleanup never passes over an error of the server. For every instance of every test and
every server answer, it stops at the first call the server fails and returns an error that ends
with the server's message. -/
theorem cleanup_reports_server_errors (i : Instance) :
    StopsOnError (fun _ _ => false) id (i.cleanup cl) := by
  cases i with
  | kvv1 k => exact StopsOnError.mountCleanup _ cl
  | kvv2 k => exact StopsOnError.mountCleanup _ cl
  | acl a => exact a.cleanup_stops_on_error cl _
  | mount m => exact m.cleanup_stops_on_error cl _
  | ns n => exact n.cleanup_stops_on_error cl _
  | redis r => exact StopsOnError.mountCleanup _ cl

end Instance

namespace Builder

variable (helpers : RedisHelpers) (cl : Client) (name : String) (top : TopLevelTargetConfig)
  (uuid : Except String String)

def setup : Builder → ClientM (Except String Instance)
  | .kvv1 action config => do
    let r ← KVV1Test.setup cl action config name top uuid
    pure (r.map .kvv1)
  | .kvv2 action config => do
    let r ← KVV2Test.setup cl action config name top uuid
    pure (r.map .kvv2)
  | .acl action config => do
    let r ← ACLPolicyTest.setup cl action config name top uuid
    pure (r.map .acl)
  | .mount config => do
    let r ← MountTest.setup cl config name top uuid
    pure (r.map .mount)
  | .ns config => do
    let r ← NamespaceTest.setup cl config name top uuid
    pure (r.map .ns)
  | .redis config => do
    let r ← RedisDynamicSecret.setup cl helpers config name top uuid
    pure (r.map .redis)

theorem setup_no_removal (b : Builder) :
    CallsAll (fun c => c.removes = false) (b.setup helpers cl name top uuid) := by
  cases b with
  | kvv1 action config =>
    exact CallsAll.bind (KVV1Test.setup_no_removal cl _ _ _ _ _) fun _ => CallsAll.pure _
  | kvv2 action config =>
    exact CallsAll.bind (KVV2Test.setup_no_removal cl _ _ _ _ _) fun _ => CallsAll.pure _
  | acl action config =>
    exact CallsAll.bind (ACLPolicyTest.setup_no_removal cl _ _ _ _ _) fun _ => CallsAll.pure _
  | mount config =>
    exact CallsAll.bind (MountTest.setup_calls cl _ _ _ _ _) fun _ => CallsAll.pure _
  | ns config =>
    exact CallsAll.bind (NamespaceTest.setup_calls cl _ _ _ _ _) fun _ => CallsAll.pure _
  | redis config =>
    exact CallsAll.bind (RedisDynamicSecret.setup_no_removal cl _ _ _ _ _) fun _ => CallsAll.pure _

/-- Setup never rolls back. Whatever it returns, an error included, the server afterwards
holds everything it held before and every resource a successful call of this Setup created. -/
theorem setup_keeps_created (b : Builder) (s : List String) (t : Trace) :
    ∃ u, (b.setup helpers cl name top uuid t).2 = t ++ u ∧
      cl.runTrace s u = s ++ (u.filter fun e => e.2.isNone && e.1.creates).map (cl.urlPath ·.1) := by
  obtain ⟨u, hu, hr⟩ := b.setup_no_removal helpers cl name top uuid t
  exact ⟨u, hu, runTrace_of_no_removal cl u hr s⟩

/-- `kvv1_read` with one secret on a server that fails the seeding write: Setup returns its
error, and the mount it made stays on the server. -/
theorem kvv1_failed_seed_keeps_mount :
    let cl : Client :=
      { address := "http://127.0.0.1:8200", addressPath := "", token := "root", namespaceHeader := ""
        fails := fun i => if i = 1 then some "permission denied" else none
        listing := fun _ => none, mounts := [], auths := [] }
    let run := (Builder.kvv1 "read" { kvSize := 1, numKVs := 1 }).setup
      ⟨fun _ => .ok .null, fun _ => .ok .null, fun _ => []⟩ cl "kv-bench" ⟨false⟩ (.error "") []
    run.1 = .ok (.error "error writing kvv1 secret: permission denied") ∧
      cl.runTrace [] run.2 = ["/v1/sys/mounts/kv-bench"] := ⟨rfl, rfl⟩

/-- Setup panics only where drafting a policy does: for every registered test but a policy
test with `paths ≥ 1` and a negative `path_length`, no run of Setup panics. -/
theorem setup_never_panics (b : Builder)
    (hb : ∀ action c, b = .acl action c → c.paths ≤ 0 ∨ 0 ≤ c.pathLength) :
    NoPanic (b.setup helpers cl name top uuid) := by
  cases b with
  | kvv1 action config =>
    exact NoPanic.bind (KVV1Test.setup_no_panic cl _ _ _ _ _) fun _ => NoPanic.pure _
  | kvv2 action config =>
    exact NoPanic.bind (KVV2Test.setup_no_panic cl _ _ _ _ _) fun _ => NoPanic.pure _
  | acl action config =>
    exact NoPanic.bind (ACLPolicyTest.setup_no_panic cl _ (hb _ _ rfl) _ _ _) fun _ => NoPanic.pure _
  | mount config =>
    exact NoPanic.bind (MountTest.setup_no_panic cl _ _ _ _) fun _ => NoPanic.pure _
  | ns config =>
    exact NoPanic.bind (NamespaceTest.setup_no_panic cl _ _ _ _) fun _ => NoPanic.pure _
  | redis config =>
    exact NoPanic.bind (RedisDynamicSecret.setup_no_panic cl _ _ _ _ _) fun _ => NoPanic.pure _

/-- Setup never passes over an error of the server but the upgrade notice the KVv2 Setup waits
out. For every registered test, configuration, resource name, UUID and server answer, it stops
at the first call the server fails otherwise, and returns an error that ends with the server's
message. -/
theorem setup_reports_server_errors (b : Builder) :
    StopsOnError KVV2Test.upgradeNotice errorOf (b.setup helpers cl name top uuid) := by
  cases b with
  | kvv1 action config => exact StopsOnError.map _ (KVV1Test.setup_stops_on_error cl _ _ _ _ _ _)
  | kvv2 action config =>
    exact StopsOnError.map _ (KVV2Test.setup_stops_on_error cl (fun _ _ h => h) _ _ _ _ _)
  | acl action config =>
    exact StopsOnError.map _ (ACLPolicyTest.setup_stops_on_error cl _ _ _ _ _ _)
  | mount config =>
    exact StopsOnError.map _ (StopsOnError.of_no_calls (MountTest.setup_calls cl _ _ _ _ _))
  | ns config =>
    exact StopsOnError.map _ (StopsOnError.of_no_calls (NamespaceTest.setup_calls cl _ _ _ _ _))
  | redis config =>
    exact StopsOnError.map _ (RedisDynamicSecret.setup_stops_on_error cl _ helpers _ _ _ _)

theorem setup_never_panics_acl :
    let b := Builder.acl "write" { policies := 10, pathLength := 25, paths := 1
                                   capabilities := ["create", "read"] }
    let cl : Client :=
      { address := "http://127.0.0.1:8200", addressPath := "", token := "root", namespaceHeader := ""
        fails := fun _ => none, listing := fun _ => none, mounts := [], auths := [] }
    (∀ action c, b = .acl action c → c.paths ≤ 0 ∨ 0 ≤ c.pathLength) ∧
      NoPanic (b.setup ⟨fun _ => .ok .null, fun _ => .ok .null, fun _ => []⟩ cl "bench" ⟨false⟩
        (.error "")) :=
  ⟨fun _ _ h => (by cases h; exact .inr (by decide)),
    setup_never_panics _ _ _ _ _ _ fun _ _ h => by cases h; exact .inr (by decide)⟩

/-- The numbered tests, reading or writing, on a configuration under which neither
`rand.Int31n` nor `strings.Repeat` can panic: a non-negative count whose `int32` is positive,
a non-negative `kvsize` for a KV write, and for the policies a `path_length` that drafting
accepts. -/
def NumberedSafe : Builder → Prop
  | .kvv1 action c => action ≠ "list" ∧ 0 ≤ c.numKVs ∧ 0 < goInt32 c.numKVs ∧
      (action = "write" → 0 ≤ c.kvSize)
  | .kvv2 action c => action ≠ "list" ∧ 0 ≤ c.numKVs ∧ 0 < goInt32 c.numKVs ∧
      (action = "write" → 0 ≤ c.kvSize)
  | .acl action c => action ≠ "list" ∧ 0 ≤ c.policies ∧ 0 < goInt32 c.policies ∧
      (c.paths ≤ 0 ∨ 0 ≤ c.pathLength)
  | _ => False

def count : Builder → Int
  | .kvv1 _ c => c.numKVs
  | .kvv2 _ c => c.numKVs
  | .acl _ c => c.policies
  | _ => 0

/-- What stands between the path prefix and an item's number in a Target's URL. -/
def itemPrefix : Builder → String
  | .kvv1 _ _ => "/secret-"
  | .kvv2 _ _ => "/data/secret-"
  | .acl _ _ => "/policy-"
  | _ => ""

theorem setup_map_ok {α : Type} {x : ClientM (Except String α)} {f : α → Instance} {t t' : Trace}
    {i : Instance} (h : (do let r ← x; pure (r.map f) : ClientM (Except String Instance)) t =
      (.ok (.ok i), t')) : ∃ a, x t = (.ok (.ok a), t') ∧ i = f a := by
  rw [ClientM.bind_run] at h
  rcases hx : x t with ⟨_ | _ | a, t''⟩ <;> simp [hx, ClientM.pure_run, Except.map] at h
  exact ⟨a, by rw [h.2], h.1.symm⟩

/-- On a safe configuration Setup does not panic, and every Target of the instance it returns
succeeds and names item `n` with `1 ≤ n ≤ N`, `N` the count configured, which a successful
call of that Setup created. -/
theorem numbered_setup_target_safe (b : Builder) (hb : b.NumberedSafe) :
    NoPanic (b.setup helpers cl name top uuid) ∧
    ∀ t i t', b.setup helpers cl name top uuid t = (.ok (.ok i), t') → ∀ d : Draw,
      ∃ (tgt : Target) (n : Nat), i.target cl d = .ok tgt ∧ 1 ≤ n ∧ (n : Int) ≤ b.count ∧
        tgt.url = cl.address ++ i.getTargetInfo.pathPrefix ++ b.itemPrefix ++ strconvItoa n ∧
        ∃ u c, t' = t ++ u ∧ (c, none) ∈ u ∧ c.creates = true ∧
          c.requestPath = i.getTargetInfo.pathPrefix ++ b.itemPrefix ++ strconvItoa n := by
  cases b with
  | kvv1 action config =>
    obtain ⟨hl, h0, h32, hw⟩ := hb
    refine ⟨NoPanic.bind (KVV1Test.setup_no_panic cl _ _ _ _ _) fun _ => NoPanic.pure _, ?_⟩
    rintro t i t' h d
    obtain ⟨k, hk, rfl⟩ := setup_map_ok h
    exact KVV1Test.target_seeded cl hk hl h0 h32 hw d.int31
  | kvv2 action config =>
    obtain ⟨hl, h0, h32, hw⟩ := hb
    refine ⟨NoPanic.bind (KVV2Test.setup_no_panic cl _ _ _ _ _) fun _ => NoPanic.pure _, ?_⟩
    rintro t i t' h d
    obtain ⟨k, hk, rfl⟩ := setup_map_ok h
    exact KVV2Test.target_seeded cl hk hl h0 h32 hw d.int31
  | acl action config =>
    obtain ⟨hl, h0, h32, hp⟩ := hb
    refine ⟨NoPanic.bind (ACLPolicyTest.setup_no_panic cl _ hp _ _ _) fun _ => NoPanic.pure _, ?_⟩
    rintro t i t' h d
    obtain ⟨a, ha, rfl⟩ := setup_map_ok h
    exact ACLPolicyTest.target_seeded cl ha hl h0 h32 d.int31
  | mount | ns | redis => exact hb.elim

theorem numbered_setup_target_safe_kvv1_read :
    let b := Builder.kvv1 "read" { kvSize := 1, numKVs := 1000 }
    let cl : Client :=
      { address := "http://127.0.0.1:8200", addressPath := "", token := "root", namespaceHeader := ""
        fails := fun _ => none, listing := fun _ => none, mounts := [], auths := [] }
    b.NumberedSafe ∧
      NoPanic (b.setup ⟨fun _ => .ok .null, fun _ => .ok .null, fun _ => []⟩ cl "kv-bench" ⟨false⟩
        (.error "")) :=
  have hb : (Builder.kvv1 "read" { kvSize := 1, numKVs := 1000 }).NumberedSafe :=
    ⟨by decide, by decide, by decide, fun _ => by decide⟩
  ⟨hb, (numbered_setup_target_safe _ _ _ _ _ _ hb).1⟩

/-- `kvv1_read` with `numkvs = 0`: `ParseConfig` accepts it and Setup succeeds, seeding
nothing, and then every Target panics in `rand.Int31n(0)`. -/
theorem kvv1_zero_secrets_target_panics :
    let cl : Client :=
      { address := "http://127.0.0.1:8200", addressPath := "", token := "root", namespaceHeader := ""
        fails := fun _ => none, listing := fun _ => none, mounts := [], auths := [] }
    KVV1Test.parseConfig (.ok ⟨none, some 0⟩) = .ok { kvSize := 1, numKVs := 0 } ∧
      ∃ i, (Builder.kvv1 "read" { kvSize := 1, numKVs := 0 }).setup
          ⟨fun _ => .ok .null, fun _ => .ok .null, fun _ => []⟩ cl "kv-bench" ⟨false⟩ (.error "") [] =
          (.ok (.ok i), [(Call.mount "kv-bench" ⟨"kv", []⟩, none)]) ∧
        ∀ d : Draw, i.target cl d = .error (.panic "invalid argument to Int31n") :=
  ⟨rfl, _, rfl, fun _ => rfl⟩

/-- The tests whose Setup mounts a secrets engine and whose Cleanup deletes that mount. -/
def MountBacked : Builder → Prop
  | .kvv1 .. | .kvv2 .. | .redis .. => True
  | _ => False

theorem mountBacked_setup_ok (b : Builder) (hb : b.MountBacked) {t t' : Trace} {i : Instance}
    (h : b.setup helpers cl name top uuid t = (.ok (.ok i), t')) :
    ∃ m input u, resourcePath name top uuid = .ok m ∧ t' = t ++ (Call.mount m input, none) :: u ∧
      i.getTargetInfo.pathPrefix = "/v1/" ++ m ∧ i.cleanup cl = mountCleanup ("/v1/" ++ m) cl := by
  cases b with
  | kvv1 action config =>
    obtain ⟨k, hk, rfl⟩ := setup_map_ok h
    obtain ⟨m, hm, rfl, rfl⟩ := KVV1Test.setup_ok cl hk
    exact ⟨m, _, _, hm, rfl, rfl, rfl⟩
  | kvv2 action config =>
    obtain ⟨k, hk, rfl⟩ := setup_map_ok h
    obtain ⟨m, reads, hm, rfl, -, rfl⟩ := KVV2Test.setup_ok cl hk
    exact ⟨m, _, _, hm, by rw [List.append_assoc, List.cons_append], rfl, rfl⟩
  | redis config =>
    obtain ⟨r, hr, rfl⟩ := setup_map_ok h
    obtain ⟨m, -, -, hm, rfl, rfl⟩ := RedisDynamicSecret.setup_ok cl hr
    exact ⟨m, _, _, hm, rfl, rfl, rfl⟩
  | acl | mount | ns => exact hb.elim

/-- A mount-backed test cleans up its mount. After a Setup that returns, the server holds the
mount Setup made, whatever it held before; after a Cleanup that returns no error, it holds no
mount at that URL path. -/
theorem cleanup_unmounts_setup_mount (b : Builder) (hb : b.MountBacked) {t t' : Trace}
    {i : Instance} (h : b.setup helpers cl name top uuid t = (.ok (.ok i), t')) :
    ∃ m input, (Call.mount m input, none) ∈ t' ∧ i.getTargetInfo.pathPrefix = "/v1/" ++ m ∧
      ∀ s, cl.urlPath (.mount m input) ∈ cl.runTrace s t' ∧
        ((i.cleanup cl t').1 = .ok none →
          cl.urlPath (.mount m input) ∉ cl.runTrace s (i.cleanup cl t').2) := by
  obtain ⟨m, input, u, -, rfl, hp, hc⟩ := mountBacked_setup_ok helpers cl name top uuid b hb h
  obtain ⟨u', hu', hr⟩ := b.setup_no_removal helpers cl name top uuid t
  rw [h, List.append_cancel_left_eq] at hu'
  subst hu'
  refine ⟨m, input, List.mem_append_right _ (List.mem_cons_self _ _), hp, fun s => ⟨?_, ?_⟩⟩
  · rw [runTrace_append]
    exact mem_runTrace_of_created cl (c := .mount m input) rfl u
      (fun e he => hr e (List.mem_cons_of_mem _ he)) _
  · rw [hc]
    exact mountCleanup_unmounts cl m input s _

theorem cleanup_unmounts_setup_mount_kvv1 :
    let cl : Client :=
      { address := "http://127.0.0.1:8200", addressPath := "", token := "root", namespaceHeader := ""
        fails := fun _ => none, listing := fun _ => none, mounts := [], auths := [] }
    let helpers : RedisHelpers := ⟨fun _ => .ok .null, fun _ => .ok .null, fun _ => []⟩
    let b := Builder.kvv1 "read" { kvSize := 1, numKVs := 2 }
    b.MountBacked ∧ ∃ i t', b.setup helpers cl "kv-bench" ⟨false⟩ (.error "") [] = (.ok (.ok i), t') ∧
      ∃ m input, (Call.mount m input, none) ∈ t' ∧ i.getTargetInfo.pathPrefix = "/v1/" ++ m ∧
        ∀ s, cl.urlPath (.mount m input) ∈ cl.runTrace s t' ∧
          ((i.cleanup cl t').1 = .ok none →
            cl.urlPath (.mount m input) ∉ cl.runTrace s (i.cleanup cl t').2) := by
  intro cl helpers b
  have h : b.setup helpers cl "kv-bench" ⟨false⟩ (.error "") [] = _ := rfl
  exact ⟨trivial, _, _, h, cleanup_unmounts_setup_mount helpers cl _ _ _ b trivial h⟩

/-! ## Runs side by side

Parallel runs against one server take fresh UUIDs as resource paths. A UUID is one plain
element of a path, so every URL path a run's Setup creates or its Cleanup removes is a path of
plain elements naming that run's resource path, and `path.Clean` keeps such paths apart. -/

/-- The elements of a request path that a Setup on resource path `p` can create. -/
def SetupSegments (p : String) (segs : List String) : Prop :=
  segs = ["v1", "sys", "mounts", p] ∨
  (∃ i : Nat, segs = ["v1", p, "secret-" ++ strconvItoa i] ∨
    segs = ["v1", p, "data", "secret-" ++ strconvItoa i] ∨
    segs = ["v1", "sys", "policies", "acl", p, "policy-" ++ strconvItoa i]) ∨
  ∃ n, segs = ["v1", p, "config", n] ∨ segs = ["v1", p, "roles", n]

/-- The elements of a request path that a Cleanup of fixed paths on resource path `p` removes. -/
def CleanupSegments (p : String) (segs : List String) : Prop :=
  segs = ["v1", "sys", "mounts", p] ∨
  ∃ i : Nat, segs = ["v1", "sys", "policies", "acl", p, "policy-" ++ strconvItoa i]

theorem segments_disjoint {p q : String} (hpq : p ≠ q) {segs : List String}
    (hs : SetupSegments p segs) (hc : CleanupSegments q segs) : False := by
  rcases hc with rfl | ⟨j, rfl⟩ <;> rcases hs with h | ⟨i, h | h | h⟩ | ⟨n, h | h⟩ <;> simp_all

theorem plainPath_mount {p : String} (hp : PlainSegment p) (input : MountInput) :
    PlainPath (Call.mount p input).requestPath ["v1", "sys", "mounts", p] := by
  refine ⟨List.cons_ne_nil _ _, ?_, String.ext (by simp [Call.requestPath, joinSlash])⟩
  simp only [List.mem_cons, List.not_mem_nil, or_false, forall_eq_or_imp, forall_eq]
  exact ⟨by decide, by decide, by decide, hp⟩

theorem plainPath_write {path : String} {segs : List String} (hs : segs ≠ [])
    (hp : ∀ e ∈ segs, PlainSegment e) (h : path = ⟨joinSlash (segs.map String.data)⟩) (d : Json) :
    PlainPath (Call.write path d).requestPath ("v1" :: segs) := by
  rw [show (Call.write path d).requestPath = "/v1/" ++ path from rfl, h]
  exact plainPath_v1 hs hp

theorem plainPath_policy {p : String} (hp : PlainSegment p) (i : Nat) (d : Json) :
    PlainPath (Call.write ("sys/policies/acl/" ++ p ++ "/policy-" ++ strconvItoa i) d).requestPath
      ["v1", "sys", "policies", "acl", p, "policy-" ++ strconvItoa i] := by
  refine plainPath_write (List.cons_ne_nil _ _) ?_ (String.ext (by simp [joinSlash])) d
  simp only [List.mem_cons, List.not_mem_nil, or_false, forall_eq_or_imp, forall_eq]
  exact ⟨by decide, by decide, by decide, hp,
    plainSegment_append_itoa (w := "policy-") (by decide) (by decide) (by decide) i⟩

theorem plainSegment_secret (i : Nat) : PlainSegment ("secret-" ++ strconvItoa i) :=
  plainSegment_append_itoa (by decide) (by decide) (by decide) i

/-- The tests whose Cleanup removes fixed paths, not what a listing returns. -/
def FixedCleanup : Builder → Prop
  | .kvv1 .. | .kvv2 .. | .acl .. | .redis .. => True
  | _ => False

/-- The names Setup joins into its paths besides the resource path are plain: the Redis
connection and role names. -/
def PlainNames : Builder → Prop
  | .redis c => PlainSegment c.dbConfig.name ∧ PlainSegment c.roleConfig.name
  | _ => True

theorem setup_creates_segments (b : Builder) (hb : b.PlainNames) {p : String}
    (hp : resourcePath name top uuid = .ok p) (hpp : PlainSegment p) :
    CallsAll (fun c => c.creates = true → ∃ segs, PlainPath c.requestPath segs ∧ SetupSegments p segs)
      (b.setup helpers cl name top uuid) := by
  cases b with
  | kvv1 action config =>
    refine CallsAll.bind (CallsAll.mono (fun c h hc => ?_) (KVV1Test.setup_creates cl hp)) fun _ => CallsAll.pure _
    rcases h hc with rfl | ⟨i, rfl⟩
    · exact ⟨_, plainPath_mount hpp _, .inl rfl⟩
    · refine ⟨_, @plainPath_write _ [p, "secret-" ++ strconvItoa i] (List.cons_ne_nil _ _) ?_
        (String.ext (by simp [joinSlash])) _, .inr (.inl ⟨i, .inl rfl⟩)⟩
      simp only [List.mem_cons, List.not_mem_nil, or_false, forall_eq_or_imp, forall_eq]
      exact ⟨hpp, plainSegment_secret i⟩
  | kvv2 action config =>
    refine CallsAll.bind (CallsAll.mono (fun c h hc => ?_) (KVV2Test.setup_creates cl hp)) fun _ => CallsAll.pure _
    rcases h hc with rfl | ⟨i, rfl⟩
    · exact ⟨_, plainPath_mount hpp _, .inl rfl⟩
    · refine ⟨_, @plainPath_write _ [p, "data", "secret-" ++ strconvItoa i] (List.cons_ne_nil _ _) ?_
        (String.ext (by simp [joinSlash])) _, .inr (.inl ⟨i, .inr (.inl rfl)⟩)⟩
      simp only [List.mem_cons, List.not_mem_nil, or_false, forall_eq_or_imp, forall_eq]
      exact ⟨hpp, by decide, plainSegment_secret i⟩
  | acl action config =>
    refine CallsAll.bind (CallsAll.mono (fun c h hc => ?_) (ACLPolicyTest.setup_creates cl hp)) fun _ => CallsAll.pure _
    obtain ⟨i, d, rfl⟩ := h hc
    exact ⟨_, plainPath_policy hpp i d, .inr (.inl ⟨i, .inr (.inr rfl)⟩)⟩
  | mount config => exact CallsAll.bind (MountTest.setup_calls cl _ _ _ _ _) fun _ => CallsAll.pure _
  | ns config => exact CallsAll.bind (NamespaceTest.setup_calls cl _ _ _ _ _) fun _ => CallsAll.pure _
  | redis config =>
    refine CallsAll.bind (CallsAll.mono (fun c h hc => ?_) (RedisDynamicSecret.setup_creates cl hp)) fun _ => CallsAll.pure _
    have hn : ∀ n, PlainSegment n → ∀ w, PlainSegment w → ∀ d : Json,
        PlainPath (Call.write (pathJoin [p, w, n]) d).requestPath ["v1", p, w, n] := fun n hn w hw d => by
      have hall : ∀ e ∈ [p, w, n], PlainSegment e := by
        simp only [List.mem_cons, List.not_mem_nil, or_false, forall_eq_or_imp, forall_eq]; exact ⟨hpp, hw, hn⟩
      exact plainPath_write (List.cons_ne_nil _ _) hall (pathJoin_plain (List.cons_ne_nil _ _) hall) d
    rcases h hc with rfl | ⟨d, rfl | rfl⟩
    · exact ⟨_, plainPath_mount hpp _, .inl rfl⟩
    · exact ⟨_, hn _ hb.1 "config" (by decide) d, .inr (.inr ⟨_, .inl rfl⟩)⟩
    · exact ⟨_, hn _ hb.2 "roles" (by decide) d, .inr (.inr ⟨_, .inr rfl⟩)⟩

theorem mountCleanup_removes_segments {p : String} (hpp : PlainSegment p) :
    CallsAll (fun c => c.removes = true → ∃ c₀ segs, cl.urlPath c = cl.urlPath c₀ ∧
      PlainPath c₀.requestPath segs ∧ CleanupSegments p segs) (mountCleanup ("/v1/" ++ p) cl) :=
  CallsAll.sendOr cl _ fun _ => ⟨.mount p ⟨"", []⟩, _, by
    rw [stringsReplace_append]; exact mountCleanup_reaches_mount cl p _, plainPath_mount hpp _, .inl rfl⟩

theorem cleanup_removes_segments (b : Builder) (hb : b.FixedCleanup) {p : String}
    (hp : resourcePath name top uuid = .ok p) (hpp : PlainSegment p) {t t' : Trace} {i : Instance}
    (h : b.setup helpers cl name top uuid t = (.ok (.ok i), t')) :
    CallsAll (fun c => c.removes = true → ∃ c₀ segs, cl.urlPath c = cl.urlPath c₀ ∧
      PlainPath c₀.requestPath segs ∧ CleanupSegments p segs) (i.cleanup cl) := by
  by_cases hmb : b.MountBacked
  · obtain ⟨m, -, -, hm, -, -, hc⟩ := mountBacked_setup_ok helpers cl name top uuid b hmb h
    cases hp.symm.trans hm
    rw [hc]
    exact mountCleanup_removes_segments cl hpp
  cases b with
  | kvv1 | kvv2 | redis => exact absurd trivial hmb
  | acl action config =>
    obtain ⟨a, ha, rfl⟩ := setup_map_ok h
    obtain ⟨m, hm, rfl, -⟩ := ACLPolicyTest.setup_ok cl ha
    cases hp.symm.trans hm
    exact CallsAll.forEach (fun j => CallsAll.sendOr cl _ fun _ =>
      ⟨_, _, ACLPolicyTest.deletePolicy_reaches_write cl p j .null, plainPath_policy hpp j .null,
        .inr ⟨j, rfl⟩⟩) 1 _
  | mount | ns => exact hb.elim

/-- A resource path of lower-case letters, digits, `-` and `_`, as the UUIDs of RandomMounts
are. OpenBao lower-cases and trims ACL policy names, which leaves such a path as it is. -/
def LowerName (s : String) : Prop :=
  s.data ≠ [] ∧ s.data.all (fun c => c.isLower || c.isDigit || c = '-' || c = '_') = true

instance : DecidablePred LowerName := fun s =>
  inferInstanceAs (Decidable (s.data ≠ [] ∧
    s.data.all (fun c => c.isLower || c.isDigit || c = '-' || c = '_') = true))

theorem LowerName.plainSegment {s : String} (h : LowerName s) : PlainSegment s := by
  obtain ⟨hn, ha⟩ := h
  rw [List.all_eq_true] at ha
  refine ⟨hn, fun h1 => ?_, fun h2 => ?_, fun h3 => absurd (ha _ h3) (by decide)⟩
  · rw [h1] at ha; exact absurd (ha _ (List.mem_singleton_self _)) (by decide)
  · rw [h2] at ha; exact absurd (ha _ (List.mem_cons_self _ _)) (by decide)

/-- Two runs side by side on one server, on different lower-case resource paths, as the UUIDs
of RandomMounts are. Whatever one run's Setup created, a failed Setup included, the
Cleanup of the other run, if it removes fixed paths (KVv1, KVv2, Redis, policies), leaves on the
server, whenever it runs and whatever the server answers. -/
theorem cleanup_spares_other_setup (a b : Builder) (ha : a.FixedCleanup) (hb : b.PlainNames)
    {nameA nameB : String} {topA topB : TopLevelTargetConfig} {uuidA uuidB : Except String String}
    {pA pB : String} (hpA : resourcePath nameA topA uuidA = .ok pA)
    (hpB : resourcePath nameB topB uuidB = .ok pB) (hA : LowerName pA) (hB : LowerName pB)
    (hne : pA ≠ pB) {tA tA' : Trace} {i : Instance}
    (hs : a.setup helpers cl nameA topA uuidA tA = (.ok (.ok i), tA')) (tB t : Trace) :
    ∃ u v, (b.setup helpers cl nameB topB uuidB tB).2 = tB ++ u ∧ (i.cleanup cl t).2 = t ++ v ∧
      ∀ s, ∀ x ∈ (u.filter fun e => e.2.isNone && e.1.creates).map (cl.urlPath ·.1),
        x ∈ s → x ∈ cl.runTrace s v := by
  obtain ⟨u, hu, hcr⟩ := b.setup_creates_segments helpers cl nameB topB uuidB hb hpB hB.plainSegment tB
  obtain ⟨v, hv, hrm⟩ := a.cleanup_removes_segments helpers cl nameA topA uuidA ha hpA hA.plainSegment hs t
  obtain ⟨v', hv', hnc⟩ := i.cleanup_calls cl t
  rw [hv, List.append_cancel_left_eq] at hv'
  subst hv'
  refine ⟨u, v, hu, hv, fun s x hx hxs => mem_runTrace_of_spared cl hnc (fun e he _ hr heq => ?_) hxs⟩
  obtain ⟨eB, heB, rfl⟩ := List.mem_map.mp hx
  obtain ⟨heBu, hok⟩ := List.mem_filter.mp heB
  obtain ⟨segs, hPB, hSB⟩ := hcr eB heBu (by simp only [Bool.and_eq_true] at hok; exact hok.2)
  obtain ⟨c₀, segsA, hurl, hPA, hCA⟩ := hrm e he hr
  cases cl.urlPath_inj hPA hPB (hurl.symm.trans heq)
  exact segments_disjoint (Ne.symm hne) hSB hCA

theorem cleanup_spares_other_setup_kv :
    let cl : Client :=
      { address := "http://127.0.0.1:8200", addressPath := "", token := "root", namespaceHeader := ""
        fails := fun _ => none, listing := fun _ => none, mounts := [], auths := [] }
    let helpers : RedisHelpers := ⟨fun _ => .ok .null, fun _ => .ok .null, fun _ => []⟩
    let a := Builder.kvv1 "read" { kvSize := 1, numKVs := 2 }
    let b := Builder.kvv2 "write" { kvSize := 1, numKVs := 2, detailed := false }
    a.FixedCleanup ∧ b.PlainNames ∧ resourcePath "kv-a" ⟨false⟩ (.error "") = .ok "kv-a" ∧
      resourcePath "kv-b" ⟨false⟩ (.error "") = .ok "kv-b" ∧ LowerName "kv-a" ∧
      LowerName "kv-b" ∧ "kv-a" ≠ "kv-b" ∧
      ∃ i tA', a.setup helpers cl "kv-a" ⟨false⟩ (.error "") [] = (.ok (.ok i), tA') ∧
        ∃ u v, (b.setup helpers cl "kv-b" ⟨false⟩ (.error "") []).2 = [] ++ u ∧
          (i.cleanup cl tA').2 = tA' ++ v ∧
          ∀ s, ∀ x ∈ (u.filter fun e => e.2.isNone && e.1.creates).map (cl.urlPath ·.1),
            x ∈ s → x ∈ cl.runTrace s v := by
  intro cl helpers a b
  have hpA : resourcePath "kv-a" ⟨false⟩ (.error "") = .ok "kv-a" := rfl
  have hpB : resourcePath "kv-b" ⟨false⟩ (.error "") = .ok "kv-b" := rfl
  have hs : a.setup helpers cl "kv-a" ⟨false⟩ (.error "") [] = _ := rfl
  exact ⟨trivial, trivial, hpA, hpB, by decide, by decide, by decide, _, _, hs,
    cleanup_spares_other_setup helpers cl a b trivial trivial hpA hpB (by decide) (by decide)
      (by decide) hs [] _⟩

end Builder

end BenchmarkOpenbao
