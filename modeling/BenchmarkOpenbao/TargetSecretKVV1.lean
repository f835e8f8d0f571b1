import BenchmarkOpenbao.ApiClient

set_option autoImplicit false

/-!
# `kvv1_read`, `kvv1_list`, `kvv1_write`

`KVV1Test` from `target_secret_kvv1.go`. Setup mounts a version 1 KV engine and seeds
`secret-1` to `secret-N`; Target reads or writes a random one of them, or lists the mount;
Cleanup deletes the mount.
-/

namespace BenchmarkOpenbao

def KVV1ReadTestMethod : String := "GET"
def KVV1ListTestMethod : String := "LIST"
def KVV1WriteTestMethod : String := "POST"

structure KVV1SecretTestConfig where
  kvSize : Int
  numKVs : Int

/-- The attributes a `config` block sets, as gohcl decodes them; an absent one is `none`. -/
structure KVV1ConfigBody where
  kvsize : Option Int
  numkvs : Option Int

structure KVV1Test where
  pathPrefix : String
  header : Header
  action : String
  numKVs : Int
  kvSize : Int

namespace KVV1Test

/-- `ParseConfig`: the defaults, overridden by what the block sets. -/
def parseConfig (body : Except String KVV1ConfigBody) : Except String KVV1SecretTestConfig :=
  match body with
  | .error diags => .error ("error decoding to struct: " ++ diags)
  | .ok b => .ok { kvSize := b.kvsize.getD 1, numKVs := b.numkvs.getD 1000 }

variable (k : KVV1Test) (cl : Client)

def read (draw : Nat) : Except Abort Target :=
  numberedTarget KVV1ReadTestMethod (cl.address ++ k.pathPrefix ++ "/secret-") k.numKVs (.ok "")
    k.header draw

def list : Target :=
  { method := KVV1ListTestMethod, url := cl.address ++ k.pathPrefix, body := "", header := k.header }

def write (draw : Nat) : Except Abort Target :=
  numberedTarget KVV1WriteTestMethod (cl.address ++ k.pathPrefix ++ "/secret-") k.numKVs
    (kvWriteBody k.kvSize) k.header draw

def target (draw : Nat) : Except Abort Target :=
  if k.action = "write" then k.write cl draw
  else if k.action = "list" then .ok (k.list cl)
  else k.read cl draw

def getTargetInfo : TargetInfo :=
  { method := if k.action = "write" then KVV1WriteTestMethod
      else if k.action = "list" then KVV1ListTestMethod else KVV1ReadTestMethod
    pathPrefix := k.pathPrefix }

def cleanup : ClientM (Option String) := mountCleanup k.pathPrefix cl

def setup (action : String) (config : KVV1SecretTestConfig) (mountName : String)
    (top : TopLevelTargetConfig) (uuid : Except String String) :
    ClientM (Except String KVV1Test) := do
  let mountPath ← resourcePath mountName top uuid
  match ← cl.send (.mount mountPath ⟨"kv", []⟩) with
  | some err => pure (.error ("error mounting kv secrets engine: " ++ err))
  | none =>
    match ← cl.seed (fun i => mountPath ++ "/secret-" ++ strconvItoa i) secval
      (fun _ => ("error writing kvv1 secret: " ++ ·)) config.numKVs with
    | some err => pure (.error err)
    | none => pure (.ok { pathPrefix := "/v1/" ++ mountPath, action, header := cl.vaultHeaders
                          numKVs := config.numKVs, kvSize := config.kvSize })

/-! ## Target -/

theorem target_of_list (h : k.action = "list") : k.target cl = fun _ => .ok (k.list cl) := by
  funext draw; simp [target, h]

theorem target_of_not_list (h : k.action ≠ "list") (draw : Nat) :
    k.target cl draw = numberedTarget k.getTargetInfo.method
      (cl.address ++ k.pathPrefix ++ "/secret-") k.numKVs
      (if k.action = "write" then kvWriteBody k.kvSize else .ok "") k.header draw := by
  by_cases hw : k.action = "write" <;> simp [target, getTargetInfo, read, write, hw, h]

theorem target_names_secret {draw : Nat} {t : Target} (h : k.target cl draw = .ok t)
    (ha : k.action ≠ "list") :
    ∃ n : Int, 1 ≤ n ∧ n ≤ goInt32 k.numKVs ∧
      t.url = cl.address ++ k.pathPrefix ++ "/secret-" ++ strconvItoa n := by
  rw [target_of_not_list k cl ha] at h
  obtain ⟨n, h1, h2, b, -, rfl⟩ := numberedTarget_ok h
  exact ⟨n, h1, h2, rfl⟩

theorem target_ok_iff (draw : Nat) :
    (∃ t, k.target cl draw = .ok t) ↔
      k.action = "list" ∨ (0 < goInt32 k.numKVs ∧ (k.action = "write" → 0 ≤ k.kvSize)) := by
  by_cases hl : k.action = "list"
  · simp [target_of_list k cl hl, hl]
  · rw [target_of_not_list k cl hl, numberedTarget_ok_iff]
    by_cases hw : k.action = "write"
    · simp [hw, hl, kvWriteBody_ok_iff]
    · simp [hw, hl]

theorem target_describes {draw : Nat} {t : Target} (h : k.target cl draw = .ok t) :
    k.getTargetInfo.Describes cl.address t := by
  by_cases hl : k.action = "list"
  · rw [target_of_list k cl hl, Except.ok.injEq] at h
    subst h
    exact TargetInfo.describes_of (by simp [getTargetInfo, hl, list]) "" (by simp [list,
      getTargetInfo]) (.inl rfl)
  · rw [target_of_not_list k cl hl] at h
    obtain ⟨n, -, -, b, -, rfl⟩ := numberedTarget_ok h
    exact TargetInfo.describes_of rfl ("/secret-" ++ strconvItoa n)
      (by simp [getTargetInfo, String.append_assoc]) (.inr rfl)

/-! ## Setup -/

theorem setup_no_removal (action : String) (config : KVV1SecretTestConfig) (mountName : String)
    (top : TopLevelTargetConfig) (uuid : Except String String) :
    CallsAll (fun c => c.removes = false) (setup cl action config mountName top uuid) := by
  refine CallsAll.bind (CallsAll.lift _) fun m => CallsAll.bind (CallsAll.send cl rfl) fun r => ?_
  cases r
  · refine CallsAll.bind (CallsAll.seed cl _ _ fun _ => by rfl) fun s => ?_
    cases s <;> exact CallsAll.pure _
  · exact CallsAll.pure _

theorem setup_creates {action : String} {config : KVV1SecretTestConfig} {mountName : String}
    {top : TopLevelTargetConfig} {uuid : Except String String} {p : String}
    (hp : resourcePath mountName top uuid = .ok p) :
    CallsAll (fun c => c.creates = true → c = .mount p ⟨"kv", []⟩ ∨
      ∃ i : Nat, c = .write (p ++ "/secret-" ++ strconvItoa i) secval)
      (setup cl action config mountName top uuid) := by
  unfold setup
  rw [hp]
  refine CallsAll.lift_ok_bind (CallsAll.bind (CallsAll.send cl fun _ => .inl rfl) fun r => ?_)
  cases r
  · refine CallsAll.bind (CallsAll.seed cl _ _ fun i _ => .inr ⟨i, rfl⟩) fun s => ?_
    cases s <;> exact CallsAll.pure _
  · exact CallsAll.pure _

theorem setup_no_panic (action : String) (config : KVV1SecretTestConfig) (mountName : String)
    (top : TopLevelTargetConfig) (uuid : Except String String) :
    NoPanic (setup cl action config mountName top uuid) :=
  NoPanic.bind (NoPanic.lift (resourcePath_ne_panic mountName top uuid)) fun _ =>
    NoPanic.bind (NoPanic.send cl _) fun r => by
      cases r
      · exact NoPanic.bind (NoPanic.seed cl _ _ _ _) fun s => by cases s <;> exact NoPanic.pure _
      · exact NoPanic.pure _

theorem setup_stops_on_error (retry : Call → String → Bool) (action : String)
    (config : KVV1SecretTestConfig) (mountName : String) (top : TopLevelTargetConfig)
    (uuid : Except String String) :
    StopsOnError retry errorOf (setup cl action config mountName top uuid) :=
  StopsOnError.lift_bind fun _ => StopsOnError.send_bind cl _ (fun _ => ⟨_, _, rfl, rfl⟩)
    (StopsOnError.bind_some (StopsOnError.seed cl _ _ (fun _ _ => ⟨_, rfl⟩) _) (fun _ => rfl)
      (StopsOnError.of_no_calls (CallsAll.pure _)))

theorem setup_ok {action : String} {config : KVV1SecretTestConfig} {mountName : String}
    {top : TopLevelTargetConfig} {uuid : Except String String} {t t' : Trace} {k' : KVV1Test}
    (h : setup cl action config mountName top uuid t = (.ok (.ok k'), t')) :
    ∃ m, resourcePath mountName top uuid = .ok m ∧
      k' = { pathPrefix := "/v1/" ++ m, action, header := cl.vaultHeaders
             numKVs := config.numKVs, kvSize := config.kvSize } ∧
      t' = t ++ (Call.mount m ⟨"kv", []⟩, none) :: (List.range config.numKVs.toNat).map
        fun j => (Call.write (m ++ "/secret-" ++ strconvItoa ((1 + j : Nat) : Int)) secval, none) := by
  simp only [setup, ClientM.bind_run, ClientM.lift_run, send_run] at h
  rcases hm : resourcePath mountName top uuid with e | m
  · simp [hm] at h
  · refine ⟨m, rfl, ?_⟩
    rcases hf : cl.fails t.length with _ | e
    · simp only [hm, hf, ClientM.bind_run] at h
      rcases hs : cl.seed (fun i => m ++ "/secret-" ++ strconvItoa i) secval
        (fun _ x => "error writing kvv1 secret: " ++ x) config.numKVs
        (t ++ [(Call.mount m ⟨"kv", []⟩, none)]) with ⟨_ | _ | _, t''⟩
      · simp [hs] at h
      · simp only [hs, ClientM.pure_run, Prod.mk.injEq, Except.ok.injEq] at h
        obtain ⟨rfl, rfl⟩ := h
        exact ⟨rfl, by simp [seed_ok cl _ _ _ _ hs]⟩
      · simp [hs, ClientM.pure_run] at h
    · simp [hm, hf, ClientM.pure_run] at h

/-- On a configuration with a non-negative `numkvs` of positive `int32`, and for a write a
non-negative `kvsize`, every Target of the instance Setup returns names `secret-n` with
`1 ≤ n ≤ numkvs`, which a successful write of that Setup created. -/
theorem target_seeded {action : String} {config : KVV1SecretTestConfig} {mountName : String}
    {top : TopLevelTargetConfig} {uuid : Except String String} {t t' : Trace} {k' : KVV1Test}
    (h : setup cl action config mountName top uuid t = (.ok (.ok k'), t'))
    (hl : action ≠ "list") (h0 : 0 ≤ config.numKVs) (h32 : 0 < goInt32 config.numKVs)
    (hw : action = "write" → 0 ≤ config.kvSize) (draw : Nat) :
    ∃ (tgt : Target) (n : Nat), k'.target cl draw = .ok tgt ∧ 1 ≤ n ∧ (n : Int) ≤ config.numKVs ∧
      tgt.url = cl.address ++ k'.pathPrefix ++ "/secret-" ++ strconvItoa n ∧
      ∃ u c, t' = t ++ u ∧ (c, none) ∈ u ∧ c.creates = true ∧
        c.requestPath = k'.pathPrefix ++ "/secret-" ++ strconvItoa n := by
  obtain ⟨m, -, hk, rfl⟩ := setup_ok cl h
  obtain ⟨tgt, htgt⟩ := (target_ok_iff k' cl draw).mpr (.inr (by subst hk; exact ⟨h32, hw⟩))
  obtain ⟨n, h1, h2, hurl⟩ := target_names_secret k' cl htgt (by subst hk; exact hl)
  subst hk
  obtain ⟨n, rfl, hn, hmem⟩ := @mem_seeded (fun i => m ++ "/secret-" ++ strconvItoa i) secval _ _ h0 h1 h2
  exact ⟨tgt, n, htgt, by omega, hn, hurl, _, _, rfl, List.mem_cons_of_mem _ hmem, rfl, by simp [Call.requestPath, String.append_assoc]⟩

end KVV1Test

end BenchmarkOpenbao
