import BenchmarkOpenbao.ApiClient

set_option autoImplicit false

/-!
# `kvv2_read`, `kvv2_list`, `kvv2_write`

`KVV2Test` from `target_secret_kvv2.go`. Setup mounts a version 2 KV engine, reads its
configuration until the engine's upgrade is over, and seeds `data/secret-1` to
`data/secret-N`; Target reads or writes a random one, or lists the metadata; Cleanup deletes
the mount. Target writes its methods as literals, `GetTargetInfo` through the constants.
-/

namespace BenchmarkOpenbao

def KVV2ReadTestMethod : String := "GET"
def KVV2ListTestMethod : String := "LIST"
def KVV2WriteTestMethod : String := "POST"
def MAX_UPGRADE_RETRY : Nat := 100

structure KVV2SecretTestConfig where
  kvSize : Int
  numKVs : Int
  detailed : Bool

/-- The attributes a `config` block sets, as gohcl decodes them; an absent one is `none`. -/
structure KVV2ConfigBody where
  kvsize : Option Int
  numkvs : Option Int
  detailed : Option Bool

structure KVV2Test where
  pathPrefix : String
  header : Header
  action : String
  numKVs : Int
  kvSize : Int
  detailed : Bool

namespace KVV2Test

/-- `ParseConfig`: the defaults, overridden by what the block sets. -/
def parseConfig (body : Except String KVV2ConfigBody) : Except String KVV2SecretTestConfig :=
  match body with
  | .error diags => .error ("error decoding to struct: " ++ diags)
  | .ok b => .ok { kvSize := b.kvsize.getD 1, numKVs := b.numkvs.getD 1000
                   detailed := b.detailed.getD false }

variable (k : KVV2Test) (cl : Client)

def read (draw : Nat) : Except Abort Target :=
  numberedTarget "GET" (cl.address ++ k.pathPrefix ++ "/data/secret-") k.numKVs (.ok "") k.header
    draw

def list : Target :=
  let path := if k.detailed then "detailed-metadata" else "metadata"
  { method := "LIST", url := cl.address ++ k.pathPrefix ++ "/" ++ path, body := ""
    header := k.header }

def write (draw : Nat) : Except Abort Target :=
  numberedTarget "POST" (cl.address ++ k.pathPrefix ++ "/data/secret-") k.numKVs
    (kvWriteBody k.kvSize) k.header draw

def target (draw : Nat) : Except Abort Target :=
  if k.action = "write" then k.write cl draw
  else if k.action = "list" then .ok (k.list cl)
  else k.read cl draw

def getTargetInfo : TargetInfo :=
  { method := if k.action = "write" then KVV2WriteTestMethod
      else if k.action = "list" then KVV2ListTestMethod else KVV2ReadTestMethod
    pathPrefix := k.pathPrefix }

def cleanup : ClientM (Option String) := mountCleanup k.pathPrefix cl

/-- The retry loop on `mountPath/config`: at most `retries` reads, stopping at the first
success, and failing on the first error that is not the upgrade notice. Once the retries
run out the loop lets Setup go on. -/
def readConfig (mountPath : String) : Nat → ClientM (Option String)
  | 0 => pure none
  | retries + 1 => do
    match ← cl.send (.read (mountPath ++ "/config")) with
    | none => pure none
    | some err =>
      if stringsContains err "Upgrading from non-versioned to versioned data." then
        readConfig mountPath retries
      else pure (some ("cannot read KVv2 configuration: " ++ err))

/-- The one failure Setup lets pass: a read that fails with the upgrade notice. -/
def upgradeNotice : Call → String → Bool
  | .read _, e => stringsContains e "Upgrading from non-versioned to versioned data."
  | _, _ => false

def setup (action : String) (config : KVV2SecretTestConfig) (mountName : String)
    (top : TopLevelTargetConfig) (uuid : Except String String) :
    ClientM (Except String KVV2Test) := do
  let mountPath ← resourcePath mountName top uuid
  match ← cl.send (.mount mountPath ⟨"kv", [("version", "2")]⟩) with
  | some err => pure (.error ("error mounting kv secrets engine: " ++ err))
  | none =>
    match ← readConfig cl mountPath MAX_UPGRADE_RETRY with
    | some err => pure (.error err)
    | none =>
      match ← cl.seed (fun i => mountPath ++ "/data/secret-" ++ strconvItoa i) secval
        (fun _ => ("error writing kv secret: " ++ ·)) config.numKVs with
      | some err => pure (.error err)
      | none => pure (.ok { pathPrefix := "/v1/" ++ mountPath, header := cl.vaultHeaders
                            numKVs := config.numKVs, kvSize := config.kvSize
                            detailed := config.detailed, action })

/-! ## Target -/

theorem target_of_list (h : k.action = "list") : k.target cl = fun _ => .ok (k.list cl) := by
  funext draw; simp [target, h]

theorem target_of_not_list (h : k.action ≠ "list") (draw : Nat) :
    k.target cl draw = numberedTarget k.getTargetInfo.method
      (cl.address ++ k.pathPrefix ++ "/data/secret-") k.numKVs
      (if k.action = "write" then kvWriteBody k.kvSize else .ok "") k.header draw := by
  by_cases hw : k.action = "write" <;> simp [target, getTargetInfo, read, write, hw, h] <;> rfl

theorem target_names_secret {draw : Nat} {t : Target} (h : k.target cl draw = .ok t)
    (ha : k.action ≠ "list") :
    ∃ n : Int, 1 ≤ n ∧ n ≤ goInt32 k.numKVs ∧
      t.url = cl.address ++ k.pathPrefix ++ "/data/secret-" ++ strconvItoa n := by
  rw [target_of_not_list k cl ha] at h
  obtain ⟨n, h1, h2, b, -, rfl⟩ := numberedTarget_ok h
  exact ⟨n, h1, h2, rfl⟩

theorem target_ok_iff (draw : Nat) :
    (∃ t, k.target cl draw = .ok t) ↔
      k.action = "list" ∨ (0 < goInt32 k.numKVs ∧ (k.action = "write" → 0 ≤ k.kvSize)) := by
  by_cases hl : k.action = "list"
  · simp [target_of_list k cl hl, hl]
  · rw [target_of_not_list k cl hl, numberedTarget_ok_iff]
    by_cases hw : k.action = "write"
    · simp [hw, hl, kvWriteBody_ok_iff]
    · simp [hw, hl]

/-- Target's request is the one `GetTargetInfo` describes, though the two spell the method
differently. -/
theorem target_describes {draw : Nat} {t : Target} (h : k.target cl draw = .ok t) :
    k.getTargetInfo.Describes cl.address t := by
  by_cases hl : k.action = "list"
  · rw [target_of_list k cl hl, Except.ok.injEq] at h
    subst h
    exact TargetInfo.describes_of (by simp [getTargetInfo, hl, list]; rfl)
      ("/" ++ if k.detailed then "detailed-metadata" else "metadata")
      (by simp [list, getTargetInfo, String.append_assoc]) (.inr rfl)
  · rw [target_of_not_list k cl hl] at h
    obtain ⟨n, -, -, b, -, rfl⟩ := numberedTarget_ok h
    exact TargetInfo.describes_of rfl ("/data/secret-" ++ strconvItoa n)
      (by simp [getTargetInfo, String.append_assoc]) (.inr rfl)

/-! ## Setup -/

theorem readConfig_reads (mountPath : String) (retries : Nat) :
    CallsAll (· = .read (mountPath ++ "/config")) (readConfig cl mountPath retries) := by
  induction retries with
  | zero => exact CallsAll.pure _
  | succ retries ih =>
    refine CallsAll.bind (CallsAll.send cl rfl) fun r => ?_
    cases r with
    | none => exact CallsAll.pure _
    | some err => dsimp only; split
                  · exact ih
                  · exact CallsAll.pure _

theorem setup_no_removal (action : String) (config : KVV2SecretTestConfig) (mountName : String)
    (top : TopLevelTargetConfig) (uuid : Except String String) :
    CallsAll (fun c => c.removes = false) (setup cl action config mountName top uuid) := by
  refine CallsAll.bind (CallsAll.lift _) fun m => CallsAll.bind (CallsAll.send cl rfl) fun r => ?_
  cases r
  · refine CallsAll.bind (fun t => ?_) fun r => ?_
    · obtain ⟨u, hu, hr⟩ := readConfig_reads cl m MAX_UPGRADE_RETRY t
      exact ⟨u, hu, fun e he => by rw [hr e he]; rfl⟩
    · cases r
      · refine CallsAll.bind (CallsAll.seed cl _ _ fun _ => by rfl) fun s => ?_
        cases s <;> exact CallsAll.pure _
      · exact CallsAll.pure _
  · exact CallsAll.pure _

theorem readConfig_no_panic (mountPath : String) (retries : Nat) :
    NoPanic (readConfig cl mountPath retries) := by
  induction retries with
  | zero => exact NoPanic.pure _
  | succ retries ih =>
    refine NoPanic.bind (NoPanic.send cl _) fun r => ?_
    cases r with
    | none => exact NoPanic.pure _
    | some err => dsimp only; split
                  · exact ih
                  · exact NoPanic.pure _

theorem setup_creates {action : String} {config : KVV2SecretTestConfig} {mountName : String}
    {top : TopLevelTargetConfig} {uuid : Except String String} {p : String}
    (hp : resourcePath mountName top uuid = .ok p) :
    CallsAll (fun c => c.creates = true → c = .mount p ⟨"kv", [("version", "2")]⟩ ∨
      ∃ i : Nat, c = .write (p ++ "/data/secret-" ++ strconvItoa i) secval)
      (setup cl action config mountName top uuid) := by
  unfold setup
  rw [hp]
  refine CallsAll.lift_ok_bind (CallsAll.bind (CallsAll.send cl fun _ => .inl rfl) fun r => ?_)
  cases r
  · refine CallsAll.bind (CallsAll.mono (fun c hc hcr => by subst hc; cases hcr)
      (readConfig_reads cl p MAX_UPGRADE_RETRY)) fun r => ?_
    cases r
    · refine CallsAll.bind (CallsAll.seed cl _ _ fun i _ => .inr ⟨i, rfl⟩) fun s => ?_
      cases s <;> exact CallsAll.pure _
    · exact CallsAll.pure _
  · exact CallsAll.pure _

/-- An answer that ends the retry loop: a success, or an error without the upgrade notice. -/
def endsRetry : Option String → Bool
  | none => true
  | some err => !stringsContains err "Upgrading from non-versioned to versioned data."

/-- The retry loop in closed form. Over the answers the server gives to `retries` reads in a
row, the loop reads up to and including the first answer that ends it, and returns that
answer's error, wrapped, or none for a success; when no answer ends it, it reads `retries`
times and returns no error. -/
theorem readConfig_eq (mountPath : String) (retries : Nat) (t : Trace) :
    let answers := (List.range retries).map fun j => cl.fails (t.length + j)
    readConfig cl mountPath retries t =
      (.ok ((answers.find? endsRetry).join.map ("cannot read KVv2 configuration: " ++ ·)),
       t ++ (answers.take ((answers.takeWhile (!endsRetry ·)).length + 1)).map
         fun a => (.read (mountPath ++ "/config"), a)) := by
  induction retries generalizing t with
  | zero => simp [readConfig, ClientM.pure_run]
  | succ R ih =>
    simp only [readConfig, ClientM.bind_run, send_run, List.range_succ_eq_map, List.map_cons,
      List.map_map, Function.comp_def, Nat.add_zero]
    rcases ha : cl.fails t.length with _ | err
    · simp [endsRetry, ClientM.pure_run]
    · by_cases hc : stringsContains err "Upgrading from non-versioned to versioned data." = true
      · have e : ∀ j, (t ++ [(Call.read (mountPath ++ "/config"), some err)]).length + j =
            t.length + j.succ := fun j => by simp only [List.length_append, List.length_singleton]; omega
        simp only [hc, if_true]
        rw [ih]
        simp only [e]
        simp [endsRetry, hc]
      · simp [hc, endsRetry, ClientM.pure_run]

theorem setup_no_panic (action : String) (config : KVV2SecretTestConfig) (mountName : String)
    (top : TopLevelTargetConfig) (uuid : Except String String) :
    NoPanic (setup cl action config mountName top uuid) := by
  refine NoPanic.bind (NoPanic.lift (resourcePath_ne_panic mountName top uuid)) fun m =>
    NoPanic.bind (NoPanic.send cl _) fun r => ?_
  cases r
  · refine NoPanic.bind (readConfig_no_panic cl m _) fun r => ?_
    cases r
    · exact NoPanic.bind (NoPanic.seed cl _ _ _ _) fun s => by cases s <;> exact NoPanic.pure _
    · exact NoPanic.pure _
  · exact NoPanic.pure _

section Retry

variable {retry : Call → String → Bool}
  (hr : ∀ p e, upgradeNotice (.read p) e = true → retry (.read p) e = true)
include hr

theorem readConfig_stops_on_error (mountPath : String) (retries : Nat) :
    StopsOnError retry id (readConfig cl mountPath retries) := by
  induction retries with
  | zero => exact StopsOnError.of_no_calls (CallsAll.pure _)
  | succ R ih =>
    refine StopsOnError.bind (StopsOnError.send cl _) (fun r e he => ?_) fun r _ => ?_
    · obtain ⟨rfl, hne⟩ := Option.filter_eq_some.mp he
      have hc : stringsContains e "Upgrading from non-versioned to versioned data." = false :=
        Bool.eq_false_iff.mpr fun hc => by simp [hr _ e hc] at hne
      exact ⟨some ("cannot read KVv2 configuration: " ++ e), _,
        by simp only [hc, Bool.false_eq_true, if_false], rfl⟩
    · rcases r with _ | e
      · exact StopsOnError.of_no_calls (CallsAll.pure _)
      · dsimp only
        split
        · exact ih
        · exact StopsOnError.of_no_calls (CallsAll.pure _)

theorem setup_stops_on_error (action : String) (config : KVV2SecretTestConfig)
    (mountName : String) (top : TopLevelTargetConfig) (uuid : Except String String) :
    StopsOnError retry errorOf (setup cl action config mountName top uuid) :=
  StopsOnError.lift_bind fun _ => StopsOnError.send_bind cl _ (fun _ => ⟨_, _, rfl, rfl⟩)
    (StopsOnError.bind_some (readConfig_stops_on_error cl hr _ _) (fun _ => rfl)
      (StopsOnError.bind_some (StopsOnError.seed cl _ _ (fun _ _ => ⟨_, rfl⟩) _) (fun _ => rfl)
        (StopsOnError.of_no_calls (CallsAll.pure _))))

end Retry

theorem setup_ok {action : String} {config : KVV2SecretTestConfig} {mountName : String}
    {top : TopLevelTargetConfig} {uuid : Except String String} {t t' : Trace} {k' : KVV2Test}
    (h : setup cl action config mountName top uuid t = (.ok (.ok k'), t')) :
    ∃ m reads, resourcePath mountName top uuid = .ok m ∧
      k' = { pathPrefix := "/v1/" ++ m, header := cl.vaultHeaders, numKVs := config.numKVs
             kvSize := config.kvSize, detailed := config.detailed, action } ∧
      (∀ e ∈ reads, e.1 = Call.read (m ++ "/config")) ∧
      t' = t ++ (Call.mount m ⟨"kv", [("version", "2")]⟩, none) :: reads ++
        (List.range config.numKVs.toNat).map fun j =>
          (Call.write (m ++ "/data/secret-" ++ strconvItoa ((1 + j : Nat) : Int)) secval, none) := by
  simp only [setup, ClientM.bind_run, ClientM.lift_run, send_run] at h
  rcases hm : resourcePath mountName top uuid with e | m
  · simp [hm] at h
  rcases hf : cl.fails t.length with _ | e
  · simp only [hm, hf, ClientM.bind_run] at h
    set t₁ := t ++ [(Call.mount m ⟨"kv", [("version", "2")]⟩, none)]
    obtain ⟨reads, hr, hreads⟩ := readConfig_reads cl m MAX_UPGRADE_RETRY t₁
    rcases hc : readConfig cl m MAX_UPGRADE_RETRY t₁ with ⟨_ | _ | _, t₂⟩
    · simp [hc] at h
    · rw [hc] at hr
      subst hr
      simp only [hc, ClientM.bind_run] at h
      rcases hs : cl.seed (fun i => m ++ "/data/secret-" ++ strconvItoa i) secval
        (fun _ x => "error writing kv secret: " ++ x) config.numKVs (t₁ ++ reads)
        with ⟨_ | _ | _, t₃⟩
      · simp [hs] at h
      · simp only [hs, ClientM.pure_run, Prod.mk.injEq, Except.ok.injEq] at h
        obtain ⟨rfl, rfl⟩ := h
        exact ⟨m, reads, rfl, rfl, hreads, by simp [t₁, seed_ok cl _ _ _ _ hs]⟩
      · simp [hs, ClientM.pure_run] at h
    · simp [hc, ClientM.pure_run] at h
  · simp [hm, hf, ClientM.pure_run] at h

/-- On a configuration with a non-negative `numkvs` of positive `int32`, and for a write a
non-negative `kvsize`, every Target of the instance Setup returns names `data/secret-n` with
`1 ≤ n ≤ numkvs`, which a successful write of that Setup created. -/
theorem target_seeded {action : String} {config : KVV2SecretTestConfig} {mountName : String}
    {top : TopLevelTargetConfig} {uuid : Except String String} {t t' : Trace} {k' : KVV2Test}
    (h : setup cl action config mountName top uuid t = (.ok (.ok k'), t'))
    (hl : action ≠ "list") (h0 : 0 ≤ config.numKVs) (h32 : 0 < goInt32 config.numKVs)
    (hw : action = "write" → 0 ≤ config.kvSize) (draw : Nat) :
    ∃ (tgt : Target) (n : Nat), k'.target cl draw = .ok tgt ∧ 1 ≤ n ∧ (n : Int) ≤ config.numKVs ∧
      tgt.url = cl.address ++ k'.pathPrefix ++ "/data/secret-" ++ strconvItoa n ∧
      ∃ u c, t' = t ++ u ∧ (c, none) ∈ u ∧ c.creates = true ∧
        c.requestPath = k'.pathPrefix ++ "/data/secret-" ++ strconvItoa n := by
  obtain ⟨m, reads, -, hk, -, rfl⟩ := setup_ok cl h
  obtain ⟨tgt, htgt⟩ := (target_ok_iff k' cl draw).mpr (.inr (by subst hk; exact ⟨h32, hw⟩))
  obtain ⟨n, h1, h2, hurl⟩ := target_names_secret k' cl htgt (by subst hk; exact hl)
  subst hk
  obtain ⟨n, rfl, hn, hmem⟩ :=
    @mem_seeded (fun i => m ++ "/data/secret-" ++ strconvItoa i) secval _ _ h0 h1 h2
  exact ⟨tgt, n, htgt, by omega, hn, hurl, _, _, List.append_assoc _ _ _, List.mem_append_right _ hmem, rfl,
    by simp [Call.requestPath, String.append_assoc]⟩

end KVV2Test

end BenchmarkOpenbao
