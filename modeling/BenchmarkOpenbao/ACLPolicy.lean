import BenchmarkOpenbao.ApiClient

set_option autoImplicit false

/-!
# `acl_policy_read`, `acl_policy_list`, `acl_policy_write`

`ACLPolicyTest`, which `target_secret_kvv2.go` also holds. Setup writes `policy-1` to
`policy-P` under `sys/policies/acl/<policyPath>`, each with the text `draftPolicy` builds;
Target reads, lists or rewrites one of them; Cleanup deletes `policy-1` to `policy-P`.
-/

namespace BenchmarkOpenbao

def ACLPolicyReadMethod : String := "GET"
def ACLPolicyListMethod : String := "LIST"
def ACLPolicyWriteMethod : String := "POST"

structure ACLPolicyTestConfig where
  policies : Int
  pathLength : Int
  paths : Int
  capabilities : List String

/-- The attributes a `config` block sets, as gohcl decodes them; an absent one is `none`. -/
structure ACLPolicyConfigBody where
  policies : Option Int
  path_length : Option Int
  paths : Option Int
  capabilities : Option (List String)

structure ACLPolicyTest where
  pathPrefix : String
  header : Header
  action : String
  policies : Int
  pathLength : Int
  paths : Int
  capabilities : List String

namespace ACLPolicyTest

/-- `ParseConfig`: the defaults, overridden by what the block sets. -/
def parseConfig (body : Except String ACLPolicyConfigBody) : Except String ACLPolicyTestConfig :=
  match body with
  | .error diags => .error ("error decoding to struct: " ++ diags)
  | .ok b => .ok { policies := b.policies.getD 10, pathLength := b.path_length.getD 25
                   paths := b.paths.getD 1
                   capabilities := b.capabilities.getD
                     ["create", "read", "update", "delete", "list", "sudo"] }

/-! ## The policy text -/

/-- The stanza `draftPolicy` appends for one path. -/
def policyStanza (path : String) (capabilities : List String) : String :=
  "path \"" ++ path ++ "\" \x7b\n  capabilities = [\"" ++ stringsJoin capabilities "\", \"" ++
    "\"]\n\x7d\n"

/-- The `i`-th path: `fmt.Sprintf("%v", i) + strings.Repeat("a", pathLength)`, cut to
`path[0:pathLength]`. -/
def policyPath (i : Nat) (pathLength : Int) : Except Abort String := do
  goSliceTo (strconvItoa i ++ (← stringsRepeat "a" pathLength)) pathLength

/-- `draftPolicy`'s loop from iteration `i`, with `k` iterations left and `policy` so far. -/
def draftLoop (pathLength : Int) (capabilities : List String) :
    Nat → Nat → String → Except Abort String
  | _, 0, policy => .ok policy
  | i, k + 1, policy => do
    let path ← policyPath i pathLength
    draftLoop pathLength capabilities (i + 1) k (policy ++ policyStanza path capabilities)

/-- `draftPolicy`: the text for `paths` paths, in the map `{"policy": text}`. -/
def draftPolicy (paths pathLength : Int) (capabilities : List String) : Except Abort Json := do
  let policy ← draftLoop pathLength capabilities 0 paths.toNat ""
  pure (.obj [("policy", .str policy)])

/-- The `i`-th path in closed form: the first `L` characters of `i` in decimal followed by
`L` letters `a`. -/
def truncatedPath (i L : Nat) : String :=
  ⟨((strconvItoa i).data ++ List.replicate L 'a').take L⟩

theorem policyPath_ok (i L : Nat) : policyPath i L = .ok (truncatedPath i L) := by
  have hr : stringsRepeat "a" L = .ok ⟨List.replicate L 'a'⟩ := stringsRepeat_char 'a' L
  simp only [policyPath, hr, except_ok_bind]
  exact goSliceTo_of_le (show L ≤ ((strconvItoa i).data ++ List.replicate L 'a').length by simp)

theorem policyPath_of_neg (i : Nat) {L : Int} (h : L < 0) :
    policyPath i L = .error (.panic "strings: negative Repeat count") := by
  simp [policyPath, stringsRepeat_of_neg _ h]

theorem draftLoop_ok (L : Nat) (capabilities : List String) (i k : Nat) (policy : String) :
    draftLoop L capabilities i k policy =
      .ok (policy ++ String.join ((List.range' i k).map fun j =>
        policyStanza (truncatedPath j L) capabilities)) := by
  induction k generalizing i policy with
  | zero => simp [draftLoop, String.join]
  | succ k ih =>
    simp only [draftLoop, policyPath_ok, except_ok_bind, ih, List.range'_succ, List.map_cons]
    exact congrArg Except.ok (String.ext (by simp [String.join_eq]))

theorem draftPolicy_eq (paths L : Nat) (capabilities : List String) :
    draftPolicy paths L capabilities = .ok (.obj [("policy", .str (String.join
      ((List.range paths).map fun i => policyStanza (truncatedPath i L) capabilities)))]) := by
  simp [draftPolicy, draftLoop_ok, List.range_eq_range']

theorem draftPolicy_of_neg {paths L : Int} (hp : 0 < paths) (hL : L < 0)
    (capabilities : List String) :
    draftPolicy paths L capabilities = .error (.panic "strings: negative Repeat count") := by
  obtain ⟨k, hk⟩ : ∃ k, paths.toNat = k + 1 := ⟨paths.toNat - 1, by omega⟩
  simp [draftPolicy, hk, draftLoop, policyPath_of_neg 0 hL]

theorem draftPolicy_ok_iff (paths L : Int) (capabilities : List String) :
    (∃ j, draftPolicy paths L capabilities = .ok j) ↔ paths ≤ 0 ∨ 0 ≤ L := by
  by_cases hL : 0 ≤ L
  · obtain ⟨L, rfl⟩ := Int.eq_ofNat_of_zero_le hL
    have h := draftPolicy_eq paths.toNat L capabilities
    by_cases hp : 0 ≤ paths
    · rw [Int.toNat_of_nonneg hp] at h; simp [h]
    · have h0 : paths.toNat = 0 := by omega
      simp [draftPolicy, draftLoop, h0]
  · by_cases hp : 0 < paths
    · simp [draftPolicy_of_neg hp (show L < 0 by omega)]
      omega
    · have h0 : paths.toNat = 0 := by omega
      simp only [draftPolicy, h0, draftLoop, except_ok_bind, except_pure, Except.ok.injEq,
        exists_eq', true_iff]
      omega

theorem draftPolicy_toNat {paths L : Int} (h : paths ≤ 0 ∨ 0 ≤ L) (capabilities : List String) :
    draftPolicy paths L capabilities = draftPolicy paths.toNat L.toNat capabilities := by
  rcases h with hp | hL
  · have h0 : paths.toNat = 0 := by omega
    simp [draftPolicy, draftLoop, h0]
  · rw [Int.toNat_of_nonneg hL]
    rfl

/-! ## The paths -/

theorem truncatedPath_length (i L : Nat) : (truncatedPath i L).length = L := by
  show (List.take L ((strconvItoa i).data ++ List.replicate L 'a')).length = L
  rw [List.length_take, List.length_append, List.length_replicate]
  omega

theorem truncatedPath_of_length_le {i L : Nat} (h : (strconvItoa i).data.length ≤ L) :
    (truncatedPath i L).data = (strconvItoa i).data ++ List.replicate (L - (strconvItoa i).data.length) 'a' := by
  simp [truncatedPath, List.take_append_eq_append_take, List.take_of_length_le h]

theorem truncatedPath_inj {i j L : Nat} (hi : i < 10 ^ L) (hj : j < 10 ^ L)
    (h : truncatedPath i L = truncatedPath j L) : i = j := by
  rcases Nat.eq_zero_or_pos L with rfl | hL
  · omega
  have digits : ∀ n, n < 10 ^ L →
      (truncatedPath n L).data.takeWhile Char.isDigit = (strconvItoa n).data := fun n hn => by
    rw [truncatedPath_of_length_le (strconvItoa_length_le hL hn),
      List.takeWhile_append_of_pos (strconvItoa_isDigit n), List.takeWhile_replicate]
    simp
  exact strconvItoa_inj (String.ext (by rw [← digits i hi, ← digits j hj, h]))

/-- `10 ^ L` and `10 ^ (L - 1)` share their first `L` digits, so their paths collide. -/
theorem truncatedPath_pow (k : Nat) :
    truncatedPath (10 ^ (k + 1)) (k + 1) = truncatedPath (10 ^ k) (k + 1) := by
  have hk := strconvItoa_pow_length k
  have hten : (strconvItoa (10 ^ (k + 1) : Nat)).data = (strconvItoa (10 ^ k : Nat)).data ++ ['0'] := by
    rw [pow_succ', strconvItoa_ten_mul (Nat.pos_pow_of_pos k (by norm_num))]
  simp only [truncatedPath, hten, List.append_assoc, List.take_left' hk]

theorem truncatedPaths_nodup_iff (paths L : Nat) :
    ((List.range paths).map (truncatedPath · L)).Nodup ↔ paths ≤ 10 ^ L := by
  constructor
  · intro h
    by_contra hlt
    have inj := List.inj_on_of_nodup_map h
    rcases L with _ | k
    · have := inj (show 0 ∈ List.range paths by simp; omega)
        (show 1 ∈ List.range paths by simp; omega) rfl
      omega
    · have hlt : 10 ^ k < 10 ^ (k + 1) := Nat.pow_lt_pow_right (by norm_num) (Nat.lt_succ_self k)
      have := inj (show 10 ^ (k + 1) ∈ List.range paths by simp; omega)
        (show 10 ^ k ∈ List.range paths by simp; omega) (truncatedPath_pow k)
      omega
  · intro h
    refine List.Nodup.map_on (fun i hi j hj => truncatedPath_inj ?_ ?_) (List.nodup_range paths)
    · simp at hi; omega
    · simp at hj; omega

/-- The policy text for `paths` paths of `L` characters is the `paths` stanzas in order, the
`i`-th naming the first `L` characters of `i` in decimal padded with `a`; every path has `L`
characters, and they are pairwise distinct exactly when `paths ≤ 10 ^ L`. -/
theorem draftPolicy_paths_distinct_iff (paths L : Nat) (capabilities : List String) :
    draftPolicy paths L capabilities = .ok (.obj [("policy", .str (String.join
      ((List.range paths).map fun i => policyStanza (truncatedPath i L) capabilities)))]) ∧
    (∀ i, (truncatedPath i L).length = L) ∧
    (((List.range paths).map (truncatedPath · L)).Nodup ↔ paths ≤ 10 ^ L) :=
  ⟨draftPolicy_eq paths L capabilities, fun i => truncatedPath_length i L,
    truncatedPaths_nodup_iff paths L⟩

/-! ## Target, Cleanup and Setup -/

variable (a : ACLPolicyTest) (cl : Client)

def read (draw : Nat) : Except Abort Target :=
  numberedTarget ACLPolicyReadMethod (cl.address ++ a.pathPrefix ++ "/policy-") a.policies
    (.ok "") a.header draw

def list : Target :=
  { method := ACLPolicyListMethod, url := cl.address ++ a.pathPrefix, body := ""
    header := a.header }

/-- `write`. `json.Marshal` does not fail on the policy map, so its panic is not reached. -/
def write (draw : Nat) : Except Abort Target :=
  numberedTarget ACLPolicyWriteMethod (cl.address ++ a.pathPrefix ++ "/policy-") a.policies
    ((draftPolicy a.paths a.pathLength a.capabilities).map fun policy => ⟨Json.marshal policy⟩)
    a.header draw

def target (draw : Nat) : Except Abort Target :=
  if a.action = "write" then a.write cl draw
  else if a.action = "list" then .ok (a.list cl)
  else a.read cl draw

def getTargetInfo : TargetInfo :=
  { method := if a.action = "write" then ACLPolicyWriteMethod
      else if a.action = "list" then ACLPolicyListMethod else ACLPolicyReadMethod
    pathPrefix := a.pathPrefix }

/-- Cleanup's loop body: delete `policy-i`. -/
def deletePolicy (i : Nat) : ClientM (Option String) :=
  cl.sendOr (.delete (stringsTrimPrefix a.pathPrefix "/v1" ++ "/policy-" ++ strconvItoa i))
    fun err => "failed to clean up policy (" ++ strconvItoa i ++ "): " ++ err

def cleanup : ClientM (Option String) := forEach (a.deletePolicy cl) 1 a.policies.toNat

/-- Setup's loop body: draft the policy, then write it as `policy-i`. -/
def writePolicy (config : ACLPolicyTestConfig) (policyPath : String) (i : Nat) :
    ClientM (Option String) := do
  let policy ← draftPolicy config.paths config.pathLength config.capabilities
  cl.writeOr ("sys/policies/acl/" ++ policyPath ++ "/policy-" ++ strconvItoa i) policy
    fun err => "failed to create policy (" ++ strconvItoa i ++ "): " ++ err

def setup (action : String) (config : ACLPolicyTestConfig) (mountName : String)
    (top : TopLevelTargetConfig) (uuid : Except String String) :
    ClientM (Except String ACLPolicyTest) := do
  let policyPath ← resourcePath mountName top uuid
  match ← forEach (writePolicy cl config policyPath) 1 config.policies.toNat with
  | some err => pure (.error err)
  | none => pure (.ok { pathPrefix := "/v1/sys/policies/acl/" ++ policyPath, action
                        header := cl.vaultHeaders, policies := config.policies
                        pathLength := config.pathLength, paths := config.paths
                        capabilities := config.capabilities })

theorem target_of_list (h : a.action = "list") : a.target cl = fun _ => .ok (a.list cl) := by
  funext draw; simp [target, h]

theorem target_of_not_list (h : a.action ≠ "list") (draw : Nat) :
    a.target cl draw = numberedTarget a.getTargetInfo.method
      (cl.address ++ a.pathPrefix ++ "/policy-") a.policies
      (if a.action = "write" then
        (draftPolicy a.paths a.pathLength a.capabilities).map fun policy => ⟨Json.marshal policy⟩
      else .ok "") a.header draw := by
  by_cases hw : a.action = "write" <;> simp [target, getTargetInfo, read, write, hw, h]

theorem target_names_policy {draw : Nat} {t : Target} (h : a.target cl draw = .ok t)
    (ha : a.action ≠ "list") :
    ∃ n : Int, 1 ≤ n ∧ n ≤ goInt32 a.policies ∧
      t.url = cl.address ++ a.pathPrefix ++ "/policy-" ++ strconvItoa n := by
  rw [target_of_not_list a cl ha] at h
  obtain ⟨n, h1, h2, b, -, rfl⟩ := numberedTarget_ok h
  exact ⟨n, h1, h2, rfl⟩

theorem target_ok_iff (draw : Nat) :
    (∃ t, a.target cl draw = .ok t) ↔ a.action = "list" ∨
      (0 < goInt32 a.policies ∧ (a.action = "write" → a.paths ≤ 0 ∨ 0 ≤ a.pathLength)) := by
  by_cases hl : a.action = "list"
  · simp [target_of_list a cl hl, hl]
  · rw [target_of_not_list a cl hl, numberedTarget_ok_iff, ← draftPolicy_ok_iff _ _ a.capabilities]
    by_cases hw : a.action = "write"
    · rcases draftPolicy a.paths a.pathLength a.capabilities with e | j <;>
        simp [hw, hl, Except.map]
    · simp [hw, hl]

theorem target_describes {draw : Nat} {t : Target} (h : a.target cl draw = .ok t) :
    a.getTargetInfo.Describes cl.address t := by
  by_cases hl : a.action = "list"
  · rw [target_of_list a cl hl, Except.ok.injEq] at h
    subst h
    exact TargetInfo.describes_of (by simp [getTargetInfo, hl, list]) ""
      (by simp [list, getTargetInfo]) (.inl rfl)
  · rw [target_of_not_list a cl hl] at h
    obtain ⟨n, -, -, b, -, rfl⟩ := numberedTarget_ok h
    exact TargetInfo.describes_of rfl ("/policy-" ++ strconvItoa n)
      (by simp [getTargetInfo, String.append_assoc]) (.inr rfl)

theorem forEach_writePolicy {config : ACLPolicyTestConfig} {policy : Json}
    (h : draftPolicy config.paths config.pathLength config.capabilities = .ok policy)
    (policyPath : String) (n : Int) :
    forEach (writePolicy cl config policyPath) 1 n.toNat =
      cl.seed (fun i => "sys/policies/acl/" ++ policyPath ++ "/policy-" ++ strconvItoa i) policy
        (fun i err => "failed to create policy (" ++ strconvItoa i ++ "): " ++ err) n := by
  have hw : writePolicy cl config policyPath = fun i : Nat =>
      cl.writeOr ("sys/policies/acl/" ++ policyPath ++ "/policy-" ++ strconvItoa i) policy
        fun err => "failed to create policy (" ++ strconvItoa i ++ "): " ++ err := by
    funext i
    simp only [writePolicy, h]
    rfl
  rw [hw]
  rfl

theorem setup_no_panic (action : String) {config : ACLPolicyTestConfig}
    (h : config.paths ≤ 0 ∨ 0 ≤ config.pathLength) (mountName : String)
    (top : TopLevelTargetConfig) (uuid : Except String String) :
    NoPanic (setup cl action config mountName top uuid) := by
  obtain ⟨policy, hd⟩ := (draftPolicy_ok_iff _ _ config.capabilities).mpr h
  refine NoPanic.bind (NoPanic.lift (resourcePath_ne_panic mountName top uuid)) fun p => ?_
  refine NoPanic.bind ?_ fun r => by cases r <;> exact NoPanic.pure _
  rw [forEach_writePolicy cl hd]
  exact NoPanic.seed cl _ _ _ _

theorem setup_stops_on_error (retry : Call → String → Bool) (action : String)
    (config : ACLPolicyTestConfig) (mountName : String) (top : TopLevelTargetConfig)
    (uuid : Except String String) :
    StopsOnError retry errorOf (setup cl action config mountName top uuid) :=
  StopsOnError.lift_bind fun _ => StopsOnError.bind_some
    (StopsOnError.forEach (fun _ => StopsOnError.lift_bind fun _ =>
      StopsOnError.sendOr cl _ fun _ => ⟨_, rfl⟩) 1 _)
    (fun _ => rfl) (StopsOnError.of_no_calls (CallsAll.pure _))

theorem cleanup_stops_on_error (retry : Call → String → Bool) :
    StopsOnError retry id (a.cleanup cl) :=
  StopsOnError.forEach (fun _ => StopsOnError.sendOr cl _ fun _ => ⟨_, rfl⟩) 1 _

theorem setup_no_removal (action : String) (config : ACLPolicyTestConfig) (mountName : String)
    (top : TopLevelTargetConfig) (uuid : Except String String) :
    CallsAll (fun c => c.removes = false) (setup cl action config mountName top uuid) := by
  refine CallsAll.bind (CallsAll.lift _) fun p => CallsAll.bind ?_ fun r => ?_
  · refine CallsAll.forEach (fun i => CallsAll.bind (CallsAll.lift _) fun _ => ?_) 1 _
    exact CallsAll.sendOr cl _ rfl
  · cases r <;> exact CallsAll.pure _

theorem setup_creates {action : String} {config : ACLPolicyTestConfig} {mountName : String}
    {top : TopLevelTargetConfig} {uuid : Except String String} {p : String}
    (hp : resourcePath mountName top uuid = .ok p) :
    CallsAll (fun c => c.creates = true →
      ∃ (i : Nat) (d : Json), c = .write ("sys/policies/acl/" ++ p ++ "/policy-" ++ strconvItoa i) d)
      (setup cl action config mountName top uuid) := by
  unfold setup
  rw [hp]
  refine CallsAll.lift_ok_bind (CallsAll.bind ?_ fun r => by cases r <;> exact CallsAll.pure _)
  exact CallsAll.forEach (fun i => CallsAll.bind (CallsAll.lift _) fun _ =>
    CallsAll.sendOr cl _ fun _ => ⟨i, _, rfl⟩) 1 _

theorem setup_ok {action : String} {config : ACLPolicyTestConfig} {mountName : String}
    {top : TopLevelTargetConfig} {uuid : Except String String} {t t' : Trace}
    {a' : ACLPolicyTest} (h : setup cl action config mountName top uuid t = (.ok (.ok a'), t')) :
    ∃ p, resourcePath mountName top uuid = .ok p ∧
      a' = { pathPrefix := "/v1/sys/policies/acl/" ++ p, action, header := cl.vaultHeaders
             policies := config.policies, pathLength := config.pathLength
             paths := config.paths, capabilities := config.capabilities } ∧
      ∃ policy, (config.policies.toNat = 0 ∨
          draftPolicy config.paths config.pathLength config.capabilities = .ok policy) ∧
        t' = t ++ (List.range config.policies.toNat).map fun j =>
          (Call.write ("sys/policies/acl/" ++ p ++ "/policy-" ++ strconvItoa ((1 + j : Nat) : Int))
            policy, none) := by
  simp only [setup, ClientM.bind_run, ClientM.lift_run] at h
  rcases hm : resourcePath mountName top uuid with e | p
  · simp [hm] at h
  refine ⟨p, rfl, ?_⟩
  simp only [hm] at h
  by_cases hn : config.policies.toNat = 0
  · simp only [hn, forEach, ClientM.pure_run, Prod.mk.injEq, Except.ok.injEq] at h
    obtain ⟨rfl, rfl⟩ := h
    exact ⟨rfl, .null, .inl hn, by simp [hn]⟩
  rcases hd : draftPolicy config.paths config.pathLength config.capabilities with e | policy
  · obtain ⟨k, hk⟩ : ∃ k, config.policies.toNat = k + 1 := ⟨_, (Nat.succ_pred_eq_of_ne_zero hn).symm⟩
    simp [hk, forEach, writePolicy, hd, ClientM.bind_run, ClientM.lift_run] at h
  rw [forEach_writePolicy cl hd] at h
  rcases hs : cl.seed (fun i => "sys/policies/acl/" ++ p ++ "/policy-" ++ strconvItoa i) policy
    (fun i err => "failed to create policy (" ++ strconvItoa i ++ "): " ++ err) config.policies t
    with ⟨_ | _ | _, t''⟩
  · simp [hs] at h
  · simp only [hs, ClientM.pure_run, Prod.mk.injEq, Except.ok.injEq] at h
    obtain ⟨rfl, rfl⟩ := h
    exact ⟨rfl, policy, .inr rfl, seed_ok cl _ _ _ _ hs⟩
  · simp [hs, ClientM.pure_run] at h

theorem target_seeded {action : String} {config : ACLPolicyTestConfig} {mountName : String}
    {top : TopLevelTargetConfig} {uuid : Except String String} {t t' : Trace}
    {a' : ACLPolicyTest} (h : setup cl action config mountName top uuid t = (.ok (.ok a'), t'))
    (hl : action ≠ "list") (h0 : 0 ≤ config.policies) (h32 : 0 < goInt32 config.policies)
    (draw : Nat) :
    ∃ (tgt : Target) (n : Nat), a'.target cl draw = .ok tgt ∧ 1 ≤ n ∧ (n : Int) ≤ config.policies ∧
      tgt.url = cl.address ++ a'.pathPrefix ++ "/policy-" ++ strconvItoa n ∧
      ∃ u c, t' = t ++ u ∧ (c, none) ∈ u ∧ c.creates = true ∧
        c.requestPath = a'.pathPrefix ++ "/policy-" ++ strconvItoa n := by
  obtain ⟨p, -, ha, policy, hd, rfl⟩ := setup_ok cl h
  have hle := goInt32_le h0 h32
  have hdraft : config.paths ≤ 0 ∨ 0 ≤ config.pathLength :=
    (draftPolicy_ok_iff _ _ config.capabilities).mp ⟨policy, hd.resolve_left (by omega)⟩
  obtain ⟨tgt, htgt⟩ := (target_ok_iff a' cl draw).mpr (.inr (by subst ha; exact ⟨h32, fun _ => hdraft⟩))
  obtain ⟨n, h1, h2, hurl⟩ := target_names_policy a' cl htgt (by subst ha; exact hl)
  subst ha
  obtain ⟨n, rfl, hn, hmem⟩ :=
    @mem_seeded (fun i => "sys/policies/acl/" ++ p ++ "/policy-" ++ strconvItoa i) policy _ _ h0 h1 h2
  exact ⟨tgt, n, htgt, by omega, hn, hurl, _, _, rfl, hmem, rfl,
    by simp only [Call.requestPath, ← String.append_assoc]; rfl⟩

theorem cleanup_deletes :
    CallsAll (fun c => ∃ i, c = .delete (stringsTrimPrefix a.pathPrefix "/v1" ++ "/policy-" ++
      strconvItoa i)) (a.cleanup cl) :=
  CallsAll.forEach (fun i => CallsAll.sendOr cl _ ⟨i, rfl⟩) 1 _

theorem cleanup_of_succeeds (hf : ∀ n, cl.fails n = none) (t : Trace) :
    a.cleanup cl t = (.ok none, t ++ (List.range a.policies.toNat).map fun j =>
      (Call.delete (stringsTrimPrefix a.pathPrefix "/v1" ++ "/policy-" ++
        strconvItoa ((1 + j : Nat) : Int)), none)) :=
  forEach_sendOr_of_succeeds cl hf _ _ 1 _ t

/-- Cleanup's delete of `policy-i` reaches the URL path Setup's write of it created: the
request paths differ only by the slash `TrimPrefix` leaves after `/v1/`. -/
theorem deletePolicy_reaches_write (p : String) (i : Nat) (policy : Json) :
    cl.urlPath (.delete (stringsTrimPrefix ("/v1/sys/policies/acl/" ++ p) "/v1" ++ "/policy-" ++
      strconvItoa i)) =
    cl.urlPath (.write ("sys/policies/acl/" ++ p ++ "/policy-" ++ strconvItoa i) policy) := by
  have ht : stringsTrimPrefix ("/v1/sys/policies/acl/" ++ p) "/v1" = "/sys/policies/acl/" ++ p := by
    rw [show "/v1/sys/policies/acl/" ++ p = "/v1" ++ ("/sys/policies/acl/" ++ p) by
      rw [← String.append_assoc]; rfl]
    exact stringsTrimPrefix_append _ _
  refine cl.urlPath_eq_of_double_slash ("sys/policies/acl/" ++ p ++ "/policy-" ++ strconvItoa i)
    ?_ rfl
  simp only [Call.requestPath, ht, ← String.append_assoc]
  rfl

/-- Setup then Cleanup on a server that fails no call: Cleanup deletes exactly the policies
Setup wrote, so the server ends as it began, less any policy of those names it held before. -/
theorem setup_then_cleanup_restores (hf : ∀ n, cl.fails n = none) {action : String}
    {config : ACLPolicyTestConfig} {mountName : String} {top : TopLevelTargetConfig}
    {uuid : Except String String} {t t' : Trace} {a' : ACLPolicyTest}
    (h : setup cl action config mountName top uuid t = (.ok (.ok a'), t')) (s : List String) :
    ∃ u v, t' = t ++ u ∧ a'.cleanup cl t' = (.ok none, t' ++ v) ∧
      cl.runTrace s (u ++ v) = s.filter fun x => x ∉ u.map (cl.urlPath ·.1) := by
  obtain ⟨p, -, rfl, policy, -, rfl⟩ := setup_ok cl h
  refine ⟨_, _, rfl, cleanup_of_succeeds _ cl hf _, ?_⟩
  refine runTrace_create_remove cl _ _ (by simp [Call.creates]) (by simp [Call.removes]) ?_ s
  simp only [List.map_map]
  exact List.map_congr_left fun j _ => deletePolicy_reaches_write cl p (1 + j) policy

theorem setup_then_cleanup_restores_two :
    let cl : Client :=
      { address := "http://127.0.0.1:8200", addressPath := "", token := "root", namespaceHeader := ""
        fails := fun _ => none, listing := fun _ => none, mounts := [], auths := [] }
    ∃ a' t', setup cl "write" { policies := 2, pathLength := 3, paths := 1, capabilities := ["read"] }
        "bench" ⟨false⟩ (.error "") [] = (.ok (.ok a'), t') ∧
      ∃ u v, t' = [] ++ u ∧ a'.cleanup cl t' = (.ok none, t' ++ v) ∧
        cl.runTrace ["/v1/sys/mounts/kv"] (u ++ v) =
          ["/v1/sys/mounts/kv"].filter fun x => x ∉ u.map (cl.urlPath ·.1) := by
  intro cl
  have h : setup cl "write" { policies := 2, pathLength := 3, paths := 1, capabilities := ["read"] }
      "bench" ⟨false⟩ (.error "") [] = _ := rfl
  exact ⟨_, _, h, setup_then_cleanup_restores cl (fun _ => rfl) h _⟩

/-- `policies = -4294967295` passes `ParseConfig`, and Setup writes no policy for it. Its
`int32` is `1`, so a write target rewrites `policy-1`; Cleanup counts up to `policies`, deletes
nothing, and leaves that policy on the server. -/
theorem negative_policies_leave_policy (cl : Client) (name : String)
    (uuid : Except String String) (draw : Nat) (t : Trace) :
    let config : ACLPolicyTestConfig :=
      { policies := -4294967295, pathLength := 25, paths := 1
        capabilities := ["create", "read", "update", "delete", "list", "sudo"] }
    ∃ a : ACLPolicyTest, setup cl "write" config name ⟨false⟩ uuid t = (.ok (.ok a), t) ∧
      (∃ tgt, a.target cl draw = .ok tgt ∧ tgt.method = "POST" ∧
        tgt.url = cl.address ++ ("/v1/sys/policies/acl/" ++ name) ++ "/policy-" ++ "1") ∧
      (a.cleanup cl t).2 = t := by
  intro config
  let a : ACLPolicyTest :=
    { pathPrefix := "/v1/sys/policies/acl/" ++ name, header := cl.vaultHeaders
      action := "write", policies := -4294967295, pathLength := 25, paths := 1
      capabilities := config.capabilities }
  refine ⟨a, rfl, ?_, rfl⟩
  have h32 : goInt32 (-4294967295) = 1 := by decide
  obtain ⟨tgt, htgt⟩ := (target_ok_iff a cl draw).mpr
    (.inr ⟨by rw [h32]; decide, fun _ => .inr (show (0 : Int) ≤ 25 by decide)⟩)
  obtain ⟨n, h1, h2, hurl⟩ := target_names_policy a cl htgt (show "write" ≠ "list" by decide)
  have hn : n = 1 := by rw [h32] at h2; omega
  exact ⟨tgt, htgt, (target_describes a cl htgt).1, by rw [hurl, hn]; rfl⟩

end ACLPolicyTest

end BenchmarkOpenbao
