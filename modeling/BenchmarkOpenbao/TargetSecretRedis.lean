import BenchmarkOpenbao.ApiClient

set_option autoImplicit false

/-!
# `redis_dynamic_secret`

`RedisDynamicSecret`. Setup mounts the database engine, writes the Redis connection and a
role, and binds the instance to the mount; each Target reads credentials of the role; Cleanup
deletes the mount. `RedisDBConfig`, `structToMap`, `generateHeader` and
`VaultBenchmarkEnvVarPrefix` are not in the sources and enter as parameters.
-/

namespace BenchmarkOpenbao

def RedisDynamicSecretTestMethod : String := "GET"

structure RedisDBConfig where
  name : String
  pluginName : String
  allowedRoles : List String
  username : String
  password : String

structure RedisDynamicRoleConfig where
  name : String
  dbName : String
  defaultTTL : String
  maxTTL : String
  creationStatements : String

structure RedisDynamicSecretTestConfig where
  dbConfig : RedisDBConfig
  roleConfig : RedisDynamicRoleConfig

structure RedisDynamicSecret where
  pathPrefix : String
  roleName : String
  header : Header

/-- The functions Setup calls that the sources do not hold. -/
structure RedisHelpers where
  /-- `structToMap(r.config.DBConfig)` -/
  dbToMap : RedisDBConfig → Except String Json
  /-- `structToMap(r.config.RoleConfig)` -/
  roleToMap : RedisDynamicRoleConfig → Except String Json
  /-- `generateHeader(client)` -/
  generateHeader : Client → Header

namespace RedisDynamicSecret

/-- What `ParseConfig` decodes onto: the defaults, the credentials read from the environment
variables `<prefix>REDIS_USERNAME` and `<prefix>REDIS_PASSWORD`. -/
def defaultConfig (envPrefix : String) (getenv : String → String) :
    RedisDynamicSecretTestConfig :=
  { dbConfig := { name := "benchmark-redis-db", pluginName := "redis-database-plugin"
                  allowedRoles := ["my-*-role"], username := getenv (envPrefix ++ "REDIS_USERNAME")
                  password := getenv (envPrefix ++ "REDIS_PASSWORD") }
    roleConfig := { name := "my-dynamic-role", dbName := "benchmark-redis-db", defaultTTL := ""
                    maxTTL := "", creationStatements := "" } }

/-- `ParseConfig`; `decode` is gohcl's decoding of the block onto the defaults. -/
def parseConfig (envPrefix : String) (getenv : String → String)
    (decode : RedisDynamicSecretTestConfig → Except String RedisDynamicSecretTestConfig) :
    Except String RedisDynamicSecretTestConfig :=
  match decode (defaultConfig envPrefix getenv) with
  | .error diags => .error ("error decoding to struct: " ++ diags)
  | .ok config =>
    if config.dbConfig.username = "" then .error "no redis username provided but required"
    else if config.dbConfig.password = "" then .error "no redis password provided but required"
    else .ok config

theorem parseConfig_credentials {envPrefix : String} {getenv : String → String}
    {decode : RedisDynamicSecretTestConfig → Except String RedisDynamicSecretTestConfig}
    {config : RedisDynamicSecretTestConfig} (h : parseConfig envPrefix getenv decode = .ok config) :
    config.dbConfig.username ≠ "" ∧ config.dbConfig.password ≠ "" := by
  unfold parseConfig at h
  split at h
  · cases h
  · split_ifs at h with hu hp
    cases h
    exact ⟨hu, hp⟩

variable (r : RedisDynamicSecret) (cl : Client)

def target : Target :=
  { method := RedisDynamicSecretTestMethod, url := cl.address ++ r.pathPrefix ++ "/creds/" ++ r.roleName
    body := "", header := r.header }

def getTargetInfo : TargetInfo :=
  { method := RedisDynamicSecretTestMethod, pathPrefix := r.pathPrefix }

def cleanup : ClientM (Option String) := mountCleanup r.pathPrefix cl

def setup (helpers : RedisHelpers) (config : RedisDynamicSecretTestConfig) (mountName : String)
    (top : TopLevelTargetConfig) (uuid : Except String String) :
    ClientM (Except String RedisDynamicSecret) := do
  let secretPath ← resourcePath mountName top uuid
  match ← cl.send (.mount secretPath ⟨"database", []⟩) with
  | some err => pure (.error ("error mounting db secrets engine: " ++ err))
  | none =>
    match helpers.dbToMap config.dbConfig with
    | .error err => pure (.error ("error parsing db config from struct: " ++ err))
    | .ok dbData =>
      match ← cl.send (.write (pathJoin [secretPath, "config", config.dbConfig.name]) dbData) with
      | some err => pure (.error ("error writing redis db config: " ++ err))
      | none =>
        match helpers.roleToMap config.roleConfig with
        | .error err => pure (.error ("error parsing role config from struct: " ++ err))
        | .ok roleData =>
          match ← cl.send (.write (pathJoin [secretPath, "roles", config.roleConfig.name]) roleData) with
          | some err => pure (.error ("error writing redis role " ++
              strconvQuote config.roleConfig.name ++ ": " ++ err))
          | none => pure (.ok { pathPrefix := "/v1/" ++ secretPath, header := helpers.generateHeader cl
                                roleName := config.roleConfig.name })

theorem target_describes : r.getTargetInfo.Describes cl.address (r.target cl) :=
  TargetInfo.describes_of rfl ("/creds/" ++ r.roleName)
    (by simp [target, getTargetInfo, String.append_assoc]) (.inr rfl)

theorem setup_no_removal (helpers : RedisHelpers) (config : RedisDynamicSecretTestConfig)
    (mountName : String) (top : TopLevelTargetConfig) (uuid : Except String String) :
    CallsAll (fun c => c.removes = false) (setup cl helpers config mountName top uuid) := by
  refine CallsAll.bind (CallsAll.lift _) fun p => CallsAll.bind (CallsAll.send cl rfl) fun e => ?_
  cases e
  · dsimp only
    split
    · exact CallsAll.pure _
    · refine CallsAll.bind (CallsAll.send cl rfl) fun e => ?_
      cases e
      · dsimp only
        split
        · exact CallsAll.pure _
        · refine CallsAll.bind (CallsAll.send cl rfl) fun e => ?_
          cases e <;> exact CallsAll.pure _
      · exact CallsAll.pure _
  · exact CallsAll.pure _

theorem setup_no_panic (helpers : RedisHelpers) (config : RedisDynamicSecretTestConfig)
    (mountName : String) (top : TopLevelTargetConfig) (uuid : Except String String) :
    NoPanic (setup cl helpers config mountName top uuid) := by
  refine NoPanic.bind (NoPanic.lift (resourcePath_ne_panic mountName top uuid)) fun p =>
    NoPanic.bind (NoPanic.send cl _) fun e => ?_
  cases e
  · dsimp only
    split
    · exact NoPanic.pure _
    · refine NoPanic.bind (NoPanic.send cl _) fun e => ?_
      cases e
      · dsimp only
        split
        · exact NoPanic.pure _
        · exact NoPanic.bind (NoPanic.send cl _) fun e => by cases e <;> exact NoPanic.pure _
      · exact NoPanic.pure _
  · exact NoPanic.pure _

theorem setup_stops_on_error (retry : Call → String → Bool) (helpers : RedisHelpers)
    (config : RedisDynamicSecretTestConfig) (mountName : String) (top : TopLevelTargetConfig)
    (uuid : Except String String) :
    StopsOnError retry errorOf (setup cl helpers config mountName top uuid) := by
  refine StopsOnError.lift_bind fun _ => StopsOnError.send_bind cl _ (fun _ => ⟨_, _, rfl, rfl⟩) ?_
  dsimp only
  split
  · exact StopsOnError.of_no_calls (CallsAll.pure _)
  · refine StopsOnError.send_bind cl _ (fun _ => ⟨_, _, rfl, rfl⟩) ?_
    dsimp only
    split
    · exact StopsOnError.of_no_calls (CallsAll.pure _)
    · exact StopsOnError.send_bind cl _ (fun _ => ⟨_, _, rfl, rfl⟩)
        (StopsOnError.of_no_calls (CallsAll.pure _))

theorem setup_creates {helpers : RedisHelpers} {config : RedisDynamicSecretTestConfig}
    {mountName : String} {top : TopLevelTargetConfig} {uuid : Except String String} {p : String}
    (hp : resourcePath mountName top uuid = .ok p) :
    CallsAll (fun c => c.creates = true → c = .mount p ⟨"database", []⟩ ∨
      ∃ d, c = .write (pathJoin [p, "config", config.dbConfig.name]) d ∨
        c = .write (pathJoin [p, "roles", config.roleConfig.name]) d)
      (setup cl helpers config mountName top uuid) := by
  unfold setup
  rw [hp]
  refine CallsAll.lift_ok_bind (CallsAll.bind (CallsAll.send cl fun _ => .inl rfl) fun e => ?_)
  cases e
  · dsimp only
    split
    · exact CallsAll.pure _
    · refine CallsAll.bind (CallsAll.send cl fun _ => .inr ⟨_, .inl rfl⟩) fun e => ?_
      cases e
      · dsimp only
        split
        · exact CallsAll.pure _
        · refine CallsAll.bind (CallsAll.send cl fun _ => .inr ⟨_, .inr rfl⟩) fun e => ?_
          cases e <;> exact CallsAll.pure _
      · exact CallsAll.pure _
  · exact CallsAll.pure _

theorem setup_ok {helpers : RedisHelpers} {config : RedisDynamicSecretTestConfig}
    {mountName : String} {top : TopLevelTargetConfig} {uuid : Except String String} {t t' : Trace}
    {r' : RedisDynamicSecret} (h : setup cl helpers config mountName top uuid t = (.ok (.ok r'), t')) :
    ∃ m dbData roleData, resourcePath mountName top uuid = .ok m ∧
      r' = { pathPrefix := "/v1/" ++ m, header := helpers.generateHeader cl
             roleName := config.roleConfig.name } ∧
      t' = t ++ [(Call.mount m ⟨"database", []⟩, none),
        (Call.write (pathJoin [m, "config", config.dbConfig.name]) dbData, none),
        (Call.write (pathJoin [m, "roles", config.roleConfig.name]) roleData, none)] := by
  simp only [setup, ClientM.bind_run, ClientM.lift_run, send_run] at h
  rcases hm : resourcePath mountName top uuid with e | m
  · simp [hm] at h
  simp only [hm] at h
  rcases hf : cl.fails t.length with _ | e
  · rcases hd : helpers.dbToMap config.dbConfig with e | dbData
    · simp [hf, hd, ClientM.pure_run] at h
    rcases hf2 : cl.fails (t.length + 1) with _ | e
    · rcases hr : helpers.roleToMap config.roleConfig with e | roleData
      · simp [hf, hd, hf2, hr, ClientM.pure_run, ClientM.bind_run, send_run] at h
      rcases hf3 : cl.fails (t.length + 2) with _ | e
      · simp [hf, hd, hf2, hr, hf3, ClientM.pure_run, ClientM.bind_run, send_run] at h
        exact ⟨m, dbData, roleData, rfl, h.1.symm, h.2.symm⟩
      · simp [hf, hd, hf2, hr, hf3, ClientM.pure_run, ClientM.bind_run, send_run] at h
    · simp [hf, hd, hf2, ClientM.pure_run, ClientM.bind_run, send_run] at h
  · simp [hf, ClientM.pure_run] at h

end RedisDynamicSecret

end BenchmarkOpenbao
